import Passbook.Json.Value
import Passbook.Text.Charset
import Passbook.Text.Utf8
/-! The variables of a process. They are bytes: what is no text among them stands as halves of pairs. -/
namespace Passbook

inductive VariableFault where
  | notText (kind : String)
  | unencodable (fault : Text.Unencodable)
  | zeroInside
  | illegalName
  | emptyName
deriving DecidableEq, Repr

def VariableFault.message : VariableFault → String
  | .notText kind => "str expected, not " ++ kind
  | .unencodable fault => fault.message
  | .zeroInside => "embedded null byte"
  | .illegalName => "illegal environment variable name"
  | .emptyName => "[Errno 22] Invalid argument"

namespace Environment

private def bytesOf (text : String) : Except VariableFault (List Nat) :=
  match Text.unencodable? .raw text with
  | some fault => .error (.unencodable fault)
  | none => .ok (Text.rawBytes text)

private def setting (name : String) (value : Json) : Except VariableFault (String × String) := do
  let nameBytes ← bytesOf name
  let .string value := value | throw (.notText value.kind)
  let valueBytes ← bytesOf value
  if nameBytes.contains 0 || valueBytes.contains 0 then throw .zeroInside
  if nameBytes.contains '='.toNat then throw .illegalName
  if nameBytes.isEmpty then throw .emptyName
  return (Text.ofRawBytes nameBytes, Text.ofRawBytes valueBytes)

def ofMembers (members : List (String × Json)) : Except VariableFault (List (String × String)) :=
  members.mapM fun (name, value) => setting name value

end Environment
end Passbook
