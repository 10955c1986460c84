/-! Numbers rounded to so many binary digits, to the nearest, ties to the even one. -/
namespace Passbook.Decimal

/-- The number `mantissa * 2 ^ exponent`. -/
structure Binary where
  mantissa : Nat
  exponent : Int
deriving DecidableEq, Repr

/-- The whole number nearest to a ratio, a half going to the even one. -/
def halfEven (num den : Nat) : Nat :=
  let below := num / den
  let twice := 2 * (num % den)
  if den < twice ∨ (twice = den ∧ below % 2 = 1) then below + 1 else below

namespace Binary

/-- The number of `width` binary digits nearest to `num / den * 2 ^ exponent`; exponents below `least` are not used. -/
def round (width : Nat) (least : Int) (num den : Nat) (exponent : Int) : Binary :=
  let coarse := exponent + (num.log2 : Int) - den.log2 - width
  let scaled (e : Int) : Nat × Nat := (num * Nat.pow 2 (exponent - e).toNat, den * Nat.pow 2 (e - exponent).toNat)
  let (n, d) := scaled coarse
  let exponent := max least (if d * Nat.pow 2 width ≤ n then coarse + 1 else coarse)
  let (n, d) := scaled exponent
  ⟨halfEven n d, exponent⟩

end Binary

structure Wide where
  value : Binary
deriving DecidableEq, Repr

namespace Wide

private def ofRatio (num den : Nat) (exponent : Int) : Wide := ⟨Binary.round 64 (-16445) num den exponent⟩

def ofNat (n : Nat) : Wide := ofRatio n 1 0

def mul (a b : Wide) : Wide := ofRatio (a.value.mantissa * b.value.mantissa) 1 (a.value.exponent + b.value.exponent)

def div (a b : Wide) : Wide := ofRatio a.value.mantissa b.value.mantissa (a.value.exponent - b.value.exponent)

/-- A power of ten by repeated squaring, every product being rounded. -/
def tenTo (power : Nat) : Wide := go power 32 (ofNat 10) (ofNat 1)
where
  go (power : Nat) : Nat → Wide → Wide → Wide
    | 0, _, product => product
    | fuel + 1, square, product =>
      let product := if power % 2 = 1 then product.mul square else product
      if power / 2 = 0 then product else go (power / 2) fuel (square.mul square) product

end Wide

structure Double where
  bits : UInt64
deriving DecidableEq, Repr

namespace Double

def ofFloat (x : Float) : Double := ⟨x.toBits⟩

def float (d : Double) : Float := Float.ofBits d.bits

private def infiniteBits : UInt64 := 0x7ff0000000000000

def ofBinary (b : Binary) : Double :=
  let rounded := Binary.round 53 (-1074) b.mantissa 1 b.exponent
  let (m, e) :=
    if rounded.mantissa = 0x20000000000000 then (0x10000000000000, rounded.exponent + 1) else (rounded.mantissa, rounded.exponent)
  let biased := (e + 1075).toNat
  if m < 0x10000000000000 then ⟨UInt64.ofNat m⟩
  else if 2047 ≤ biased then ⟨infiniteBits⟩
  else ⟨UInt64.ofNat (biased * 0x10000000000000 + (m - 0x10000000000000))⟩

def ofInt? (n : Int) : Option Double :=
  let size := ofBinary ⟨n.natAbs, 0⟩
  if size.bits = infiniteBits then none
  else some (if n < 0 then ⟨size.bits ||| 0x8000000000000000⟩ else size)

end Double
end Passbook.Decimal
