import Passbook.Text.Utf16
import Passbook.Text.Utf8
/-! JSON text as bytes. Its first character is ASCII, so the zero bytes among the first four tell how wide its code units are
and which byte of a unit comes first; a mark at the start may tell that they are single bytes. -/
namespace Passbook.Json

inductive UnitWidth where
  | one
  | two (highFirst : Bool)
  | four (highFirst : Bool)
deriving DecidableEq, Repr

def UnitWidth.ofBytes : List Nat → UnitWidth
  | a :: b :: c :: d :: _ =>
    if a = 0 then if b = 0 then .four true else .two true
    else if b = 0 then if c = 0 ∧ d = 0 then .four false else .two false
    else .one
  | [a, b] => if a = 0 then .two true else if b = 0 then .two false else .one
  | _ => .one

private def pairUnits (highFirst : Bool) : List Nat → Option (List Nat)
  | a :: b :: rest => ((if highFirst then a * 256 + b else b * 256 + a) :: ·) <$> pairUnits highFirst rest
  | [] => some []
  | [_] => none

private def wideCodes (highFirst : Bool) : List Nat → Option (List Nat)
  | a :: b :: c :: d :: rest =>
    let code := if highFirst then ((a * 256 + b) * 256 + c) * 256 + d else ((d * 256 + c) * 256 + b) * 256 + a
    if code < 0x110000 then (code :: ·) <$> wideCodes highFirst rest else none
  | [] => some []
  | _ => none

private def unmarked : List Nat → List Nat
  | 0xef :: 0xbb :: 0xbf :: rest => rest
  | bytes => bytes

def decodeBytes? (bytes : List Nat) : Option String :=
  match UnitWidth.ofBytes bytes with
  | .one => some (Text.decodeUtf8 (unmarked bytes))
  | .two highFirst => (pairUnits highFirst bytes).map fun units => Text.ofCodes (Text.ofUnits units)
  | .four highFirst => (wideCodes highFirst bytes).map Text.ofCodes

end Passbook.Json
