import Passbook.Json.Shown
/-! Places for values in a text. A place is a percent sign, the name of a member in parentheses if the values have names,
flags, a width, a precision, one letter for a length, which says nothing, and a letter for the form of the value. A star in
the place of width or precision stands for the next value. -/
namespace Passbook.Json

inductive Extent where
  | width
  | precision
deriving DecidableEq, Repr

inductive FillFault where
  | unfinished
  | unfinishedName
  | unknownForm (code position : Nat)
  | tooFew
  | tooMany
  | nameless
  | unindexed
  | missingName (name : String)
  /-- A value where a whole number is needed, or one that can be cut to a whole number. -/
  | notNumber (form : Char) (kind : String)
  | notReal (kind : String)
  | notCharacter
  | starNotWhole
  | infinite (isNaN : Bool)
  /-- A whole number beyond all doubles. -/
  | oversizedNumber
  /-- A number that is no code point. -/
  | noCharacter
  | tooBig (extent : Extent)
  | oversizedStar (extent : Extent)
  | oversizedPrecision
  /-- More room than there is. -/
  | noRoom
deriving DecidableEq, Repr

def FillFault.message : FillFault → String
  | .unfinished => "incomplete format"
  | .unfinishedName => "incomplete format key"
  | .unknownForm code position =>
    let shown := if 31 ≤ code ∧ code ≤ 126 then Char.ofNat code else '?'
    s!"unsupported format character '{shown}' (0x" ++ String.ofList (Nat.toDigits 16 code) ++ s!") at index {position}"
  | .tooFew => "not enough arguments for format string"
  | .tooMany => "not all arguments converted during string formatting"
  | .nameless => "format requires a mapping"
  | .unindexed => "list indices must be integers or slices, not str"
  | .missingName name => Text.quoted name
  | .notNumber form kind =>
    let what := if "oxX".toList.contains form then "an integer" else "a real number"
    "%" ++ form.toString ++ " format: " ++ what ++ " is required, not " ++ kind
  | .notReal kind => "must be real number, not " ++ kind
  | .notCharacter => "%c requires int or char"
  | .starNotWhole => "* wants int"
  | .infinite true => "cannot convert float NaN to integer"
  | .infinite false => "cannot convert float infinity to integer"
  | .oversizedNumber => "int too large to convert to float"
  | .noCharacter => "%c arg not in range(0x110000)"
  | .tooBig .width => "width too big"
  | .tooBig .precision => "precision too big"
  | .oversizedStar .width => "Python int too large to convert to C ssize_t"
  | .oversizedStar .precision => "Python int too large to convert to C int"
  | .oversizedPrecision => "precision too large"
  | .noRoom => ""

def Extent.most : Extent → Nat
  | .width => 0x7fffffffffffffff
  | .precision => 0x7fffffff

/-- A place as it is written, its name aside. -/
structure Place where
  flags : List Char
  width : Nat
  precision : Option Nat
  form : Char
deriving DecidableEq, Repr

namespace Place

/-- What is left of a text, and the value that no place has taken yet. -/
structure Reading where
  rest : List Char
  unused : Option Json

def Reading.value (r : Reading) : Except FillFault (Json × Reading) :=
  match r.unused with
  | some value => .ok (value, { r with unused := none })
  | none => .error .tooFew

private def numeral (extent : Extent) (digits : List Char) : Except FillFault Nat :=
  digits.foldlM (fun n c =>
    let n := n * 10 + (c.toNat - 48)
    if extent.most < n then .error (.tooBig extent) else .ok n) 0

private def starred (extent : Extent) (value : Json) : Except FillFault Int :=
  let checked (n : Int) : Except FillFault Int :=
    if -(extent.most : Int) - 1 ≤ n ∧ n ≤ extent.most then .ok n else .error (.oversizedStar extent)
  match value with
  | .int n => checked n
  | .bool b => .ok (if b then 1 else 0)
  | _ => .error .starNotWhole

/-- Reads a width or a precision, if one is there; a star takes the value. -/
private def readExtent (extent : Extent) (r : Reading) : Except FillFault (Option Int × Reading) := do
  match r.rest with
  | '*' :: rest =>
    let (value, r) ← Reading.value { r with rest }
    return (some (← starred extent value), r)
  | rest =>
    let digits := rest.takeWhile Char.isDigit
    if digits.isEmpty then return (none, r)
    return (some (← numeral extent digits), { r with rest := rest.drop digits.length })

/-- Reads a place up to its form. A width below zero stands for one from the left. -/
def read (r : Reading) : Except FillFault (Place × Reading) := do
  let flags := r.rest.takeWhile ("-+ #0".toList.contains ·)
  let (width, r) ← readExtent .width { r with rest := r.rest.drop flags.length }
  let (precision, r) ← match r.rest with
    | '.' :: rest => do
      let (precision, r) ← readExtent .precision { r with rest }
      pure (some (precision.getD 0).toNat, r)
    | _ => pure (none, r)
  let rest := match r.rest with
    | c :: rest => if "hlL".toList.contains c then rest else c :: rest
    | [] => []
  let form :: rest := rest | throw .unfinished
  let width := width.getD 0
  return (⟨if width < 0 then '-' :: flags else flags, width.natAbs, precision, form⟩, { r with rest })

end Place
end Passbook.Json
