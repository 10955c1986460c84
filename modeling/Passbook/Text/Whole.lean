import Passbook.Text.Blank
/-! Whole numbers as people type them: blanks around, one plus sign, leading zeros, single underscores between digits,
and a fraction of zeros. -/
namespace Passbook.Text

inductive WholeFault where
  | malformed
  | tooLong
deriving DecidableEq, Repr

def isDigit (c : Char) : Bool := '0' ≤ c && c ≤ '9'

def digitValue (c : Char) : Nat := c.toNat - 48

def ofDigits (chars : List Char) : Nat := chars.foldl (fun n c => 10 * n + digitValue c) 0

/-- What follows a leading zero, without more zeros and underscores: the last of them stays at the end of the text and
before a point, and a minus sign may come after them. -/
private def dropZeros (last : Char) : List Char → Option (List Char)
  | [] => some [last]
  | c :: rest =>
    if c = '.' then some (last :: c :: rest)
    else if c = '0' ∨ c = '_' then dropZeros c rest
    else if isDigit c ∨ c = '-' then some (c :: rest)
    else none

private def withoutZeros : List Char → Option (List Char)
  | [] => none
  | c :: rest =>
    if c = '0' then dropZeros c rest
    else if isDigit c ∨ c = '-' then some (c :: rest)
    else none

private def withoutFraction (chars : List Char) : Option (List Char) :=
  match chars.dropWhile (· ≠ '.') with
  | [] => some chars
  | _ :: zeros => if !zeros.isEmpty && zeros.all (· == '0') then some (chars.takeWhile (· ≠ '.')) else none

private def doubled : List Char → Bool
  | '_' :: '_' :: _ => true
  | _ :: rest => doubled rest
  | [] => false

private def withoutUnderscores (chars : List Char) : Option (List Char) :=
  if !chars.contains '_' then some chars
  else if chars.head? == some '_' || chars.getLast? == some '_' || doubled chars then none
  else some (chars.filter (· ≠ '_'))

private def tidy (chars : List Char) : Option (List Char) :=
  withoutZeros chars >>= withoutFraction >>= withoutUnderscores

/-- The plain numeral that a typed one stands for: a plus sign goes, unless a minus sign follows; a minus sign stays. -/
private def plainNumeral : List Char → Option (List Char)
  | '+' :: '-' :: _ => none
  | '+' :: rest => tidy rest
  | '-' :: rest => (tidy rest).map ('-' :: ·)
  | chars => tidy chars

def longestNumeral : Nat := 4300

/-- The digits of a plain numeral: no leading zeros, and a limit on their number that counts before what follows them. -/
private def magnitude (chars : List Char) : Except WholeFault Nat :=
  let digits := chars.takeWhile isDigit
  let rest := chars.dropWhile isDigit
  if digits.head? = some '0' then
    if digits.length = 1 ∧ rest.isEmpty then .ok 0 else .error .malformed
  else if longestNumeral < digits.length then .error .tooLong
  else if digits.isEmpty ∨ !rest.isEmpty then .error .malformed
  else .ok (ofDigits digits)

private def numeralValue : List Char → Except WholeFault Int
  | '-' :: rest => (magnitude rest).map fun n => -(n : Int)
  | chars => (magnitude chars).map fun n => (n : Int)

def readWhole (text : String) : Except WholeFault Int :=
  let chars := trim isBlank text.toList
  match numeralValue chars with
  | .error .malformed =>
    match plainNumeral chars with
    | some plain => numeralValue plain
    | none => .error .malformed
  | result => result

end Passbook.Text
