import Passbook.Text.Code
/-! UTF-16 code units. -/
namespace Passbook.Text

def joinHalves (high low : Nat) : Nat := 0x10000 + (high - 0xd800) * 0x400 + (low - 0xdc00)

def units (code : Nat) : List Nat :=
  if code < 0x10000 then [code]
  else [0xd800 + (code - 0x10000) / 0x400, 0xdc00 + (code - 0x10000) % 0x400]

def ofUnits : List Nat → List Nat
  | high :: low :: rest =>
    if isHighHalf high && isLowHalf low then joinHalves high low :: ofUnits rest
    else high :: ofUnits (low :: rest)
  | [unit] => [unit]
  | [] => []

end Passbook.Text
