import Passbook.Decimal.Binary
import Passbook.Text.Whole
/-! How the store reads numbers from text. Of the digits some nineteen count; the others only shift the point. The product
with the power of ten is formed in 64 binary digits and then rounded to a double. -/
namespace Passbook.Store.Numeral
open Decimal

def isSpace (c : Char) : Bool := c == ' ' || (9 ≤ c.toNat && c.toNat ≤ 13)

private structure Digits where
  value : Nat
  shift : Int

private def enough : Nat := 922337203685477579

private def most : Nat := 922337203685477580

/-- Digits before the point: once there are enough of them, the rest only counts. -/
private def readWhole (d : Digits) (isFull : Bool) : List Char → Digits
  | [] => d
  | c :: rest =>
    if isFull then readWhole { d with shift := d.shift + 1 } true rest
    else
      let value := d.value * 10 + Text.digitValue c
      readWhole { d with value } (enough ≤ value) rest

private def readFraction (d : Digits) : List Char → Digits
  | [] => d
  | c :: rest =>
    if d.value < enough then readFraction ⟨d.value * 10 + Text.digitValue c, d.shift - 1⟩ rest else readFraction d rest

private def readPower (digits : List Char) : Int :=
  digits.foldl (fun n c => if n < 10000 then n * 10 + Text.digitValue c else 10000) 0

/-- Powers of ten that fit are multiplied into the digits, or divided out of them. -/
private def settle (value : Nat) (isDown : Bool) : Nat → Nat × Nat
  | 0 => (value, 0)
  | power + 1 =>
    if isDown then if value % 10 ≠ 0 then (value, power + 1) else settle (value / 10) true power
    else if most ≤ value then (value, power + 1) else settle (value * 10) false power

private def scaled (value power : Nat) (isDown : Bool) : Float :=
  let wide := Wide.ofNat value
  let times (p : Nat) : Float :=
    (Double.ofBinary (if isDown then wide.div (.tenTo p) else wide.mul (.tenTo p)).value).float
  if power = 0 then (Double.ofBinary wide.value).float
  else if power ≤ 307 then times power
  else if power < 342 then if isDown then times (power - 308) / 1.0e308 else times (power - 308) * 1.0e308
  else if isDown then 0.0 else 1.0 / 0.0

/-- A number read from the head of a text, and whether the text holds nothing else but blanks around it. -/
structure Reading where
  value : Float
  isWhole : Bool
  /-- Neither a point nor a power of ten occurs. -/
  isPlain : Bool

def read (text : String) : Reading :=
  let chars := text.toList.dropWhile isSpace
  let (isNegative, chars) := match chars with
    | '-' :: rest => (true, rest)
    | '+' :: rest => (false, rest)
    | rest => (false, rest)
  let whole := chars.takeWhile Text.isDigit
  let rest := chars.dropWhile Text.isDigit
  let (fraction, hasPoint, rest) := match rest with
    | '.' :: rest => (rest.takeWhile Text.isDigit, true, rest.dropWhile Text.isDigit)
    | rest => ([], false, rest)
  let (isDown, power, hasPower, isComplete, rest) := match rest with
    | c :: after =>
      if c = 'e' ∨ c = 'E' then
        let (isDown, after) := match after with
          | '-' :: after => (true, after)
          | '+' :: after => (false, after)
          | after => (false, after)
        let digits := after.takeWhile Text.isDigit
        (isDown, readPower digits, true, !digits.isEmpty, after.dropWhile Text.isDigit)
      else (false, 0, false, true, rest)
    | [] => (false, 0, false, true, [])
  let d := readFraction (readWhole ⟨0, 0⟩ false whole) fraction
  let e := (if isDown then -power else power) + d.shift
  let (value, power) := settle d.value (e < 0) e.natAbs
  let size := if d.value = 0 then 0.0 else scaled value power (e < 0)
  ⟨if isNegative then -size else size,
    isComplete && !(whole.isEmpty && fraction.isEmpty) && (rest.dropWhile isSpace).isEmpty,
    !hasPoint && !hasPower⟩

def plainInteger (text : String) : Int :=
  let chars := text.toList.dropWhile isSpace
  let n : Int := Text.ofDigits (chars.filter Text.isDigit)
  if chars.head? = some '-' then -n else n

end Passbook.Store.Numeral
