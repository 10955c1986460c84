import Passbook.Decimal.Binary
import Passbook.Decimal.Shortest
import Passbook.Reach
/-! Numbers that are either whole, of any size, or doubles. They compare by value, with nothing rounded; sums and differences
of a whole number and a double are doubles. -/
namespace Passbook.Decimal

inductive Number where
  | whole (value : Int)
  | real (value : Double)
deriving DecidableEq, Repr

/-- A finite double against a whole number, exactly; an infinite one is less or greater by its sign. -/
def compareWhole (x : Float) (n : Int) : Ordering :=
  match magnitude x with
  | .finite d =>
    let m : Int := if isNegative x then -(d.mantissa : Int) else d.mantissa
    compare (m * Nat.pow 2 d.exponent.toNat) (n * Nat.pow 2 (-d.exponent).toNat)
  | _ => if x < 0.0 then .lt else .gt

namespace Number

def ofFloat (x : Float) : Number := .real (.ofFloat x)

def float? : Number → Option Float
  | .whole n => (Double.ofInt? n).map Double.float
  | .real x => some x.float

def float (n : Number) : Float := n.float?.getD 0.0

private def agree : Number → Number → Bool
  | .whole _, .whole _ => true
  | a, b => a.float?.isSome && b.float?.isSome

instance : Zero Number := ⟨.whole 0⟩

instance : Add Number where
  add
    | .whole m, .whole n => .whole (m + n)
    | a, b => ofFloat (a.float + b.float)

instance : Sub Number where
  sub
    | .whole m, .whole n => .whole (m - n)
    | a, b => ofFloat (a.float - b.float)

/-- A whole number beyond all doubles keeps to whole numbers. -/
instance : Reach Number where
  canAdd := agree
  canSubtract := agree

/-- An undefined double is neither less nor greater than anything. -/
def isLess : Number → Number → Bool
  | .whole m, .whole n => m < n
  | .whole m, .real x => x.float == x.float && compareWhole x.float m == .gt
  | .real x, .whole n => x.float == x.float && compareWhole x.float n == .lt
  | .real x, .real y => x.float < y.float

def isEqual : Number → Number → Bool
  | .whole m, .whole n => m == n
  | .whole m, .real x => x.float == x.float && compareWhole x.float m == .eq
  | .real x, .whole n => x.float == x.float && compareWhole x.float n == .eq
  | .real x, .real y => x.float == y.float

instance : LT Number := ⟨fun a b => a.isLess b⟩

instance : LE Number := ⟨fun a b => a.isLess b || a.isEqual b⟩

instance : DecidableLT Number := fun a b => inferInstanceAs (Decidable (a.isLess b = true))

instance : DecidableLE Number := fun a b => inferInstanceAs (Decidable ((a.isLess b || a.isEqual b) = true))

end Number
end Passbook.Decimal
