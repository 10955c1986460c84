/-! The double nearest to a decimal. -/
namespace Passbook.Decimal

def nearest (negative : Bool) (digits : Nat) (exponent : Int) : Float :=
  let size := (toString digits).length + exponent
  let value : Float :=
    if digits = 0 ∨ size < -400 then 0.0
    else if 400 < size then 1.0 / 0.0
    else if exponent < 0 then Float.ofScientific digits true exponent.natAbs
    else Float.ofScientific digits false exponent.natAbs
  if negative then -value else value

end Passbook.Decimal
