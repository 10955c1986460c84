import Passbook.Text.UppercaseTable
/-! Upper-case text by the full Unicode mapping, and lower-case text within ASCII. -/
namespace Passbook.Text

private def LetterRun.covers (run : LetterRun) (code : Nat) : Bool :=
  run.first ≤ code && code ≤ run.last && (code - run.first) % run.step == 0

def capital (c : Char) : List Char :=
  if c.toNat < 128 then [c.toUpper]
  else match longCapitals.find? (·.1 == c.toNat) with
    | some (_, codes) => codes.map Char.ofNat
    | none => match letterRuns.find? (·.covers c.toNat) with
      | some run => [Char.ofNat ((c.toNat : Int) + run.distance).toNat]
      | none => [c]

def uppercase (text : String) : String := String.ofList (text.toList.flatMap capital)

/-- Lower case within ASCII. It decides equality with a lower-case word free of `i` and `k`, since no other letter
has the lower-case form of a remaining ASCII letter. -/
def asciiLowercase (text : String) : String := text.map Char.toLower

end Passbook.Text
