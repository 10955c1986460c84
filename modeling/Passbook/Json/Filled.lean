import Passbook.Decimal.Places
import Passbook.Json.Place
/-! Texts with places filled in by values. -/
namespace Passbook.Json
namespace Place

private def endless : Nat := 0x800000000

private def has (p : Place) (flag : Char) : Bool := p.flags.contains flag

private def aligned (p : Place) (sign body : List Char) (mayFill : Bool) : Except FillFault (List Char) :=
  let gap := p.width - sign.length - (Text.codesOf body).length
  if endless ≤ gap then .error .noRoom
  else if p.has '-' then .ok (sign ++ body ++ List.replicate gap ' ')
  else if mayFill && p.has '0' then .ok (sign ++ List.replicate gap '0' ++ body)
  else .ok (List.replicate gap ' ' ++ sign ++ body)

private def word (p : Place) (text : String) : Except FillFault (List Char) :=
  let body := match p.precision with
    | some count => ((Text.codes text).take count).flatMap Text.charsOfCode
    | none => text.toList
  p.aligned [] body false

private def signOf (p : Place) (isNegative : Bool) : List Char :=
  if isNegative then ['-'] else if p.has '+' then ['+'] else if p.has ' ' then [' '] else []

private def mostDigits : Nat := 0x7ffffffc

private def whole (p : Place) (n : Int) : Except FillFault (List Char) :=
  let (base, marked) := match p.form with
    | 'o' => (8, ['0', 'o'])
    | 'x' | 'X' => (16, ['0', p.form])
    | _ => (10, [])
  let least := p.precision.getD 0
  if mostDigits < least then .error .oversizedPrecision
  else
    let digits := Nat.toDigits base n.natAbs
    let digits := if p.form = 'X' then digits.map Char.toUpper else digits
    let digits := List.replicate (least - digits.length) '0' ++ digits
    let sign := p.signOf (n < 0)
    p.aligned (if p.has '#' then sign ++ marked else sign) digits true

private def wholeOf (form : Char) : Json → Except FillFault Int
  | .int n => .ok n
  | .bool b => .ok (if b then 1 else 0)
  | .float x =>
    if "oxX".toList.contains form then .error (.notNumber form "float")
    else match Decimal.truncated? x with
      | some n => .ok n
      | none => .error (.infinite (x != x))
  | value => .error (.notNumber form value.kind)

private def realOf : Json → Except FillFault Float
  | .float x => .ok x
  | .bool b => .ok (if b then 1.0 else 0.0)
  | .int n => match Decimal.Double.ofInt? n with
    | some x => .ok x.float
    | none => .error .oversizedNumber
  | value => .error (.notReal value.kind)

private def real (p : Place) (x : Float) : Except FillFault (List Char) :=
  let style : Decimal.Style := match p.form.toLower with
    | 'e' => .powered
    | 'f' => .positional
    | _ => .general
  let (isNegative, body) := Decimal.styled style (p.precision.getD 6) (p.has '#') x
  p.aligned (p.signOf isNegative) (if p.form.isUpper then body.map Char.toUpper else body) true

private def characterOf : Json → Except FillFault Nat
  | .string s => match Text.codes s with
    | [code] => .ok code
    | _ => .error .notCharacter
  | .int n => if 0 ≤ n ∧ n < 0x110000 then .ok n.toNat else .error .noCharacter
  | .bool b => .ok (if b then 1 else 0)
  | _ => .error .notCharacter

/-- Writes a value into a place whose form stands before `rest` in a text of so many code points. -/
def write (p : Place) (size : Nat) (rest : List Char) (value : Json) : Except FillFault (List Char) := do
  match p.form with
  | 's' => p.word value.plain
  | 'r' => p.word value.shown
  | 'a' => p.word (Text.asciiOnly value.shown)
  | 'd' | 'i' | 'u' | 'o' | 'x' | 'X' => p.whole (← wholeOf p.form value)
  | 'e' | 'E' | 'f' | 'F' | 'g' | 'G' => p.real (← realOf value)
  | 'c' => p.aligned [] (Text.charsOfCode (← characterOf value)) false
  | form =>
    let left := Text.codesOf (form :: rest)
    throw (.unknownForm (left.headD 0) (size - left.length))

end Place

private def nameOf? (depth : Nat) : List Char → Option (List Char × List Char)
  | [] => none
  | c :: rest =>
    if c = ')' ∧ depth = 0 then some ([], rest)
    else
      let depth := if c = '(' then depth + 1 else if c = ')' then depth - 1 else depth
      (nameOf? depth rest).map fun (name, rest) => (c :: name, rest)

private def named (values : Json) (name : String) : Except FillFault Json :=
  match values with
  | .object _ => match values.member? name with
    | some value => .ok value
    | none => .error (.missingName name)
  | .array _ => .error .unindexed
  | _ => .error .nameless

private def isCollection : Json → Bool
  | .array _ | .object _ => true
  | _ => false

/-- Fills the places of a text with one value, which a place without a name takes as a whole. Two percent signs stand for
one. -/
def fill (text : String) (values : Json) : Except FillFault String :=
  String.ofList <$> go text.length ⟨text.toList, some values⟩
where
  go (fuel : Nat) (r : Place.Reading) : Except FillFault (List Char) :=
    match fuel, r.rest with
    | fuel + 1, '%' :: '%' :: rest => return '%' :: (← go fuel { r with rest })
    | fuel + 1, '%' :: rest => do
      let r ← match rest with
        | '(' :: rest =>
          if !isCollection values then throw .nameless
          let some (name, rest) := nameOf? 0 rest | throw .unfinishedName
          pure ⟨rest, some (← named values (String.ofList name))⟩
        | rest => pure { r with rest }
      let (place, r) ← Place.read r
      let (value, r) ← r.value
      return (← place.write (Text.codes text).length r.rest value) ++ (← go fuel r)
    | fuel + 1, c :: rest => return c :: (← go fuel { r with rest })
    | _, _ => if r.unused.isSome && !isCollection values then .error .tooMany else .ok []

end Passbook.Json
