import Passbook.Failure
import Passbook.Store.Cell
/-! Arguments bound to a statement. They are bound in order: an integer has to fit 64 bits, a text needs an encoding, a
number that is undefined counts as nothing, and lists and objects cannot be bound at all. -/
namespace Passbook

inductive Argument where
  | cell (value : Cell)
  | unsupported (kind : String)
deriving DecidableEq, Repr

namespace Argument

def ofJson : Json → Argument
  | .null => .cell .null
  | .bool b => .cell (.ofBool b)
  | .int n => .cell (.int n)
  | .float x => .cell (.ofFloat x)
  | .string s => .cell (.text s)
  | value => .unsupported value.kind

def bind (position : Nat) : Argument → Except Refusal Cell
  | .cell (.int n) => if fitsInteger n then .ok (.int n) else .error .oversizedInteger
  | .cell (.text s) => match Text.unencodable? .utf8 s with
    | some fault => .error (.unencodable fault)
    | none => .ok (.text s)
  | .cell (.real x) => .ok (.ofDefined x.float)
  | .cell c => .ok c
  | .unsupported kind => .error (.unbindable position kind)

def ofInt (n : Int) : Argument := .cell (.int n)

def ofText (s : String) : Argument := .cell (.text s)

def bindAll (arguments : List Argument) : Except Refusal (List Cell) :=
  arguments.zipIdx.mapM fun (argument, i) => argument.bind (i + 1)

end Argument
end Passbook
