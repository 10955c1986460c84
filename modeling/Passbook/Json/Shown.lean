import Passbook.Decimal.Shortest
import Passbook.Json.Value
import Passbook.Text.Quoted
/-! Values as messages show them: text between quotes, the words `None`, `True` and `False`, lists and objects with their items
shown the same way. -/
namespace Passbook.Json

private def joined (items : List String) : String := ", ".intercalate items

mutual

def shown : Json → String
  | .null => "None"
  | .bool true => "True"
  | .bool false => "False"
  | .int n => toString n
  | .float x => Decimal.shortText x
  | .string s => Text.quoted s
  | .array items => "[" ++ joined (shownItems items) ++ "]"
  | .object members => "\x7b" ++ joined (shownMembers members) ++ "\x7d"

def shownItems : List Json → List String
  | [] => []
  | item :: items => item.shown :: shownItems items

def shownMembers : List (String × Json) → List String
  | [] => []
  | (name, value) :: members => (Text.quoted name ++ ": " ++ value.shown) :: shownMembers members

end

/-- As it is shown, but a text stands without quotes. -/
def plain : Json → String
  | .string s => s
  | value => value.shown

end Passbook.Json
