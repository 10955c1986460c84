import Passbook.Form.Problem
import Passbook.Decimal.Shortest
import Passbook.Text.Code
import Passbook.Text.Uppercase
import Passbook.Text.Whole
/-! Reading filled-in values leniently: whole numbers, truth values and texts. -/
namespace Passbook.Form

def integerOfText (text : String) : Except Problem Int :=
  match Text.readWhole text with
  | .ok n => .ok n
  | .error .malformed => .error .malformedInteger
  | .error .tooLong => .error .endlessInteger

private def integerOfFloat (x : Float) : Except Problem Int :=
  match Decimal.magnitude x with
  | .finite _ => match Decimal.wholeValue? x with
    | some n => if -0x8000000000000000 < n ∧ n < 0x8000000000000000 then .ok n else .error .endlessInteger
    | none => .error .fraction
  | _ => .error .notFinite

def wellFormed (text : String) : Except Problem String :=
  if Text.hasHalf text then .error .illFormed else .ok text

def integer : Json → Except Problem Int
  | .int n => .ok n
  | .bool b => .ok (if b then 1 else 0)
  | .float x => integerOfFloat x
  | .string s => wellFormed s >>= integerOfText
  | _ => .error .notInteger

private def booleanOfInteger (n : Int) : Except Problem Bool :=
  if n = 0 then .ok false else if n = 1 then .ok true else .error .malformedBoolean

def boolean : Json → Except Problem Bool
  | .bool b => .ok b
  | .int n => if -0x8000000000000000 ≤ n ∧ n < 0x8000000000000000 then booleanOfInteger n else .error .notBoolean
  | .float x => match integerOfFloat x with
    | .ok n => booleanOfInteger n
    | .error _ => .error .notBoolean
  | .string s => do
    let word := Text.asciiLowercase (← wellFormed s)
    if ["1", "on", "t", "true", "y", "yes"].contains word then return true
    else if ["0", "off", "f", "false", "n", "no"].contains word then return false
    else throw .malformedBoolean
  | _ => .error .notBoolean

def text : Json → Except Problem String
  | .string s => wellFormed s
  | _ => .error .notText

/-- Values read one after the other, every problem being kept. -/
def both {ε α β : Type} (first : Except (List ε) α) (second : Except (List ε) β) : Except (List ε) (α × β) :=
  match first, second with
  | .ok a, .ok b => .ok (a, b)
  | .ok _, .error bs => .error bs
  | .error as, .ok _ => .error as
  | .error as, .error bs => .error (as ++ bs)

def fill {ε α β : Type} (build : Except (List ε) (α → β)) (next : Except (List ε) α) : Except (List ε) β :=
  (both build next).map fun (f, a) => f a

end Passbook.Form
