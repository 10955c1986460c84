/-! JSON values. Members of an object keep their order, and whole numbers stay apart from numbers written
with a fraction or an exponent. -/
namespace Passbook

inductive Json where
  | null
  | bool (value : Bool)
  | int (value : Int)
  | float (value : Float)
  | string (value : String)
  | array (items : List Json)
  | object (members : List (String × Json))
deriving Inhabited

namespace Json

def member? (value : Json) (name : String) : Option Json :=
  match value with
  | .object members => (members.reverse.find? (·.1 == name)).map (·.2)
  | _ => none

def kind : Json → String
  | .null => "NoneType"
  | .bool _ => "bool"
  | .int _ => "int"
  | .float _ => "float"
  | .string _ => "str"
  | .array _ => "list"
  | .object _ => "dict"

/-- Whether a value counts as true: there is something in it, and it is not zero. -/
def isFilled : Json → Bool
  | .null => false
  | .bool b => b
  | .int n => n != 0
  | .float x => x != 0.0
  | .string s => !s.isEmpty
  | .array items => !items.isEmpty
  | .object members => !members.isEmpty

mutual

/-- A value as others get to see it: members whose names start with `_sa` are left out. -/
def disclosed : Json → Json
  | .array items => .array (disclosedItems items)
  | .object members => .object (disclosedMembers members)
  | value => value

def disclosedItems : List Json → List Json
  | [] => []
  | item :: items => disclosed item :: disclosedItems items

def disclosedMembers : List (String × Json) → List (String × Json)
  | [] => []
  | (name, value) :: members =>
    if "_sa".toList.isPrefixOf name.toList then disclosedMembers members else (name, disclosed value) :: disclosedMembers members

end

def ofPresent (members : List (String × Option Json)) : Json :=
  .object (members.filterMap fun (name, value) => value.map ((name, ·)))

def ofOption {α : Type} (write : α → Json) : Option α → Json
  | none => .null
  | some a => write a

def ofList {α : Type} (write : α → Json) (items : List α) : Json := .array (items.map write)

def pair (first second : Json) : Json := .array [first, second]

end Json
end Passbook
