import Passbook.Json.Value
import Passbook.Decimal.Shortest
import Passbook.Text.Padded
import Passbook.Text.Utf16
/-! JSON text. Logs are written in ASCII, with a blank after every comma and colon and every other character as one or
two UTF-16 units; what is sent is written without blanks, and only what has to be escaped is. -/
namespace Passbook.Json

private def unit (n : Nat) : List Char := '\\' :: 'u' :: Text.hexDigits 4 n

private def required? (code : Nat) : Option (List Char) :=
  if code = '"'.toNat then some ['\\', '"']
  else if code = '\\'.toNat then some ['\\', '\\']
  else if code = 0x0a then some ['\\', 'n']
  else if code = 0x0d then some ['\\', 'r']
  else if code = 0x09 then some ['\\', 't']
  else if code = 0x08 then some ['\\', 'b']
  else if code = 0x0c then some ['\\', 'f']
  else if code < 0x20 then some (unit code)
  else none

def escaped (code : Nat) : List Char :=
  (required? code).getD (if code ≤ 0x7e then [Char.ofNat code] else (Text.units code).flatMap unit)

structure Layout where
  blank : String
  escape : Nat → List Char

def Layout.ascii : Layout := ⟨" ", escaped⟩

def Layout.compact : Layout := ⟨"", fun code => (required? code).getD (Text.charsOfCode code)⟩

def Layout.string (layout : Layout) (text : String) : String :=
  "\"" ++ String.ofList ((Text.codes text).flatMap layout.escape) ++ "\""

mutual

def written (layout : Layout) : Json → String
  | .null => "null"
  | .bool true => "true"
  | .bool false => "false"
  | .int n => toString n
  | .float x => Decimal.floatText x
  | .string s => layout.string s
  | .array items => "[" ++ itemsWritten layout items ++ "]"
  | .object members => "\x7b" ++ membersWritten layout members ++ "\x7d"

def itemsWritten (layout : Layout) : List Json → String
  | [] => ""
  | [item] => written layout item
  | item :: items => written layout item ++ "," ++ layout.blank ++ itemsWritten layout items

def membersWritten (layout : Layout) : List (String × Json) → String
  | [] => ""
  | [(name, value)] => layout.string name ++ ":" ++ layout.blank ++ written layout value
  | (name, value) :: members =>
    layout.string name ++ ":" ++ layout.blank ++ written layout value ++ "," ++ layout.blank
      ++ membersWritten layout members

end

def text (value : Json) : String := value.written .ascii

def compactText (value : Json) : String := value.written .compact

mutual

def isUnbounded : Json → Bool
  | .float x => match Decimal.magnitude x with
    | .finite _ => false
    | _ => true
  | .array items => hasUnboundedItem items
  | .object members => hasUnboundedMember members
  | _ => false

def hasUnboundedItem : List Json → Bool
  | [] => false
  | item :: items => isUnbounded item || hasUnboundedItem items

def hasUnboundedMember : List (String × Json) → Bool
  | [] => false
  | (_, value) :: members => isUnbounded value || hasUnboundedMember members

end

end Passbook.Json
