/-! The fewest decimal digits that read back as a given double. A double is taken apart into a whole number
times a power of two; the reals that round to it form an interval, and the first decimal grid with a
point in the interval gives the digits, the nearer of two points winning. -/
namespace Passbook.Decimal

/-- A finite nonnegative double as `mantissa * 2 ^ exponent`. -/
structure Dyadic where
  mantissa : Nat
  exponent : Int
deriving DecidableEq, Repr

inductive Magnitude where
  | finite (value : Dyadic)
  | infinite
  | undefined
deriving DecidableEq, Repr

def isNegative (x : Float) : Bool := x.toBits.toNat / 0x8000000000000000 == 1

def magnitude (x : Float) : Magnitude :=
  let bits := x.toBits.toNat % 0x8000000000000000
  let fraction := bits % 0x10000000000000
  let biased : Nat := bits / 0x10000000000000
  if biased = 2047 then if fraction = 0 then .infinite else .undefined
  else if biased = 0 then .finite ⟨fraction, -1074⟩
  else .finite ⟨0x10000000000000 + fraction, Int.ofNat biased - 1075⟩

/-- The decimal `digits * 10 ^ exponent`. -/
structure Scientific where
  digits : Nat
  exponent : Int
deriving DecidableEq, Repr

/-- The value and the interval around it over one denominator. -/
private structure Interval where
  low : Nat
  value : Nat
  high : Nat
  denominator : Nat
  closed : Bool

private def intervalOf (d : Dyadic) : Interval :=
  let lowGap := if d.mantissa = 0x10000000000000 ∧ -1074 < d.exponent then 1 else 2
  let shift := d.exponent - 2
  let scale := Nat.pow 2 shift.toNat
  ⟨(4 * d.mantissa - lowGap) * scale, 4 * d.mantissa * scale, (4 * d.mantissa + 2) * scale, Nat.pow 2 (-shift).toNat,
    d.mantissa % 2 == 0⟩

private def Interval.holds (i : Interval) (num den : Nat) : Bool :=
  let point := num * i.denominator
  if i.closed then i.low * den ≤ point && point ≤ i.high * den
  else i.low * den < point && point < i.high * den

/-- The point of the grid `10 ^ exponent` in the interval that lies nearest to the value. -/
private def Interval.onGrid? (i : Interval) (exponent : Int) : Option Nat :=
  let up := Nat.pow 10 exponent.toNat
  let down := Nat.pow 10 (-exponent).toNat
  let below := i.value * down / (i.denominator * up)
  let distanceBelow := i.value * down - below * i.denominator * up
  let distanceAbove := (below + 1) * i.denominator * up - i.value * down
  let low := i.holds (below * up) down
  let high := i.holds ((below + 1) * up) down
  if low && high then
    if distanceBelow < distanceAbove ∨ (distanceBelow = distanceAbove ∧ below % 2 = 0) then some below else some (below + 1)
  else if low then some below
  else if high then some (below + 1)
  else none

private def search (i : Interval) (exponent : Int) : Nat → Scientific
  | 0 => ⟨i.value / i.denominator, 0⟩
  | tries + 1 => match i.onGrid? exponent with
    | some (digits + 1) => ⟨digits + 1, exponent⟩
    | _ => search i (exponent - 1) tries

private def withoutTrailingZeros (s : Scientific) : Nat → Scientific
  | 0 => s
  | tries + 1 => if s.digits ≠ 0 ∧ s.digits % 10 = 0 then withoutTrailingZeros ⟨s.digits / 10, s.exponent + 1⟩ tries else s

def shortest (d : Dyadic) : Scientific :=
  if d.mantissa = 0 then ⟨0, 0⟩
  else
    let i := intervalOf d
    let top := (toString (i.value / i.denominator)).length
    withoutTrailingZeros (search i top (top + 345)) 400

/-- Positional text from 0.0001 up to sixteen digits before the point, otherwise a power of ten with at least
two digits; a whole value keeps one zero after the point. -/
def Scientific.text (s : Scientific) : String :=
  let numeral := toString s.digits
  let point := s.exponent + numeral.length
  if s.digits = 0 then "0.0"
  else if -4 < point ∧ point ≤ 16 then
    if point ≤ 0 then "0." ++ String.ofList (List.replicate (-point).toNat '0') ++ numeral
    else if numeral.length ≤ point.toNat then
      numeral ++ String.ofList (List.replicate (point.toNat - numeral.length) '0') ++ ".0"
    else (numeral.take point.toNat).toString ++ "." ++ (numeral.drop point.toNat).toString
  else
    let power := point - 1
    let exponent := toString power.natAbs
    let rest := (numeral.drop 1).toString
    (numeral.take 1).toString ++ (if rest.isEmpty then "" else "." ++ rest) ++ "e" ++ (if power < 0 then "-" else "+")
      ++ (if exponent.length < 2 then "0" else "") ++ exponent

def floatText (x : Float) : String :=
  let sign := if isNegative x then "-" else ""
  match magnitude x with
  | .finite d => sign ++ (shortest d).text
  | .infinite => sign ++ "Infinity"
  | .undefined => "NaN"

def shortText (x : Float) : String :=
  match magnitude x with
  | .finite _ => floatText x
  | .infinite => if isNegative x then "-inf" else "inf"
  | .undefined => "nan"

def truncated? (x : Float) : Option Int :=
  match magnitude x with
  | .finite d =>
    let n := d.mantissa * Nat.pow 2 d.exponent.toNat / Nat.pow 2 (-d.exponent).toNat
    some (if isNegative x then -(n : Int) else n)
  | _ => none

def wholeValue? (x : Float) : Option Int :=
  match magnitude x with
  | .finite d => if d.mantissa * Nat.pow 2 d.exponent.toNat % Nat.pow 2 (-d.exponent).toNat = 0 then truncated? x else none
  | _ => none

end Passbook.Decimal
