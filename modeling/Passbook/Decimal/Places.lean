import Passbook.Decimal.Binary
import Passbook.Decimal.Shortest
/-! Doubles written with a given number of digits. What has to go is rounded to the nearest, halves to the even digit. -/
namespace Passbook.Decimal

/-- How a double is written: with so many places behind the point, with so many and a power of ten, or with so many digits
in all, in that of the two ways which the size of the number calls for. -/
inductive Style where
  | positional
  | powered
  | general
deriving DecidableEq, Repr

namespace Dyadic

def scaled (d : Dyadic) (power : Int) : Nat :=
  halfEven (d.mantissa * Nat.pow 2 d.exponent.toNat * Nat.pow 10 power.toNat)
    (Nat.pow 2 (-d.exponent).toNat * Nat.pow 10 (-power).toNat)

def leading (d : Dyadic) : Int :=
  let num := d.mantissa * Nat.pow 2 d.exponent.toNat
  let den := Nat.pow 2 (-d.exponent).toNat
  if num = 0 then 0
  else if den ≤ num then (Nat.toDigits 10 (num / den)).length - 1
  else -((Nat.toDigits 10 ((den - 1) / num)).length : Int)

def rounded (d : Dyadic) (count : Nat) : Scientific :=
  let power := d.leading - count + 1
  let digits := d.scaled (-power)
  if digits < Nat.pow 10 count then ⟨digits, power⟩ else ⟨digits / 10, power + 1⟩

end Dyadic

private def pointed (numeral : Nat) (places : Nat) : List Char × List Char :=
  let digits := Nat.toDigits 10 numeral
  let digits := List.replicate (places + 1 - digits.length) '0' ++ digits
  digits.splitAt (digits.length - places)

private def joined (keepsPoint : Bool) (parts : List Char × List Char) : List Char :=
  if parts.2.isEmpty && !keepsPoint then parts.1 else parts.1 ++ '.' :: parts.2

private def shortened (parts : List Char × List Char) : List Char × List Char :=
  (parts.1, (parts.2.reverse.dropWhile (· == '0')).reverse)

/-- A power of ten has two digits at least. -/
private def powerText (power : Int) : List Char :=
  let digits := Nat.toDigits 10 power.natAbs
  'e' :: (if power < 0 then '-' else '+') :: List.replicate (2 - digits.length) '0' ++ digits

/-- A number in a style. If its form is full, the point always stands, and zeros at the end do too. -/
def Dyadic.written (style : Style) (count : Nat) (isFull : Bool) (d : Dyadic) : List Char :=
  match style with
  | .positional => joined isFull (pointed (d.scaled count) count)
  | .powered =>
    let s := d.rounded (count + 1)
    joined isFull (pointed s.digits count) ++ powerText (s.exponent + count)
  | .general =>
    let count := max 1 count
    let s := d.rounded count
    let power := s.exponent + count - 1
    let tidy := if isFull then id else shortened
    if power < -4 ∨ count ≤ power then joined isFull (tidy (pointed s.digits (count - 1))) ++ powerText power
    else joined isFull (tidy (pointed s.digits (-s.exponent).toNat))

def styled (style : Style) (count : Nat) (isFull : Bool) (x : Float) : Bool × List Char :=
  match magnitude x with
  | .finite d => (isNegative x, d.written style count isFull)
  | .infinite => (isNegative x, ['i', 'n', 'f'])
  | .undefined => (false, ['n', 'a', 'n'])

end Passbook.Decimal
