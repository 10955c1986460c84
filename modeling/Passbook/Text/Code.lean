/-! Code points of a text. Half of a UTF-16 pair that stands alone is a code point but no character, so a text writes it as two
characters: a mark, and a private character that stands for the half. The mark itself is written twice. -/
namespace Passbook.Text

def isHighHalf (unit : Nat) : Bool := 0xd800 ≤ unit && unit < 0xdc00

def isLowHalf (unit : Nat) : Bool := 0xdc00 ≤ unit && unit < 0xe000

def isHalf (unit : Nat) : Bool := isHighHalf unit || isLowHalf unit

def mark : Char := Char.ofNat 0x10ffff

def halfShift : Nat := 0x101800

def charsOfCode (code : Nat) : List Char :=
  if isHalf code then [mark, Char.ofNat (halfShift + code)]
  else if code = mark.toNat then [mark, mark]
  else [Char.ofNat code]

/-- The code point that a mark and the character behind it stand for. -/
private def markedCode (c : Char) : Nat := if isHalf (c.toNat - halfShift) then c.toNat - halfShift else c.toNat

def codesOf : List Char → List Nat
  | c :: d :: rest => if c = mark then markedCode d :: codesOf rest else c.toNat :: codesOf (d :: rest)
  | [c] => [c.toNat]
  | [] => []

def codes (text : String) : List Nat := codesOf text.toList

def ofCodes (codes : List Nat) : String := String.ofList (codes.flatMap charsOfCode)

def hasHalf (text : String) : Bool := (codes text).any isHalf

/-- A text of characters alone, in which every mark stands for itself. -/
def ofPlain (text : String) : String := ofCodes (text.toList.map Char.toNat)

end Passbook.Text
