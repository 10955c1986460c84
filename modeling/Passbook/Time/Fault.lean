import Passbook.Text.Quoted
/-! Why numbers or a text are no moment of the years 1 to 9999. -/
namespace Passbook.Time

inductive Part where
  | month
  | hour
  | minute
  | second
  | microsecond
deriving DecidableEq, Repr

def Part.bounds : Part → Int × Int
  | .month => (1, 12)
  | .hour => (0, 23)
  | .minute => (0, 59)
  | .second => (0, 59)
  | .microsecond => (0, 999999)

def Part.name : Part → String
  | .month => "month"
  | .hour => "hour"
  | .minute => "minute"
  | .second => "second"
  | .microsecond => "microsecond"

inductive Fault where
  | malformed (text : String)
  | year (given : Int)
  | part (which : Part)
  | day
  | offset (seconds micros : Int)
  /-- The moment itself lies outside the years 1 to 9999. -/
  | unreachable
  /-- A number too large to be a part of a moment at all. -/
  | oversized (given : Int)
  /-- A span of too many days. -/
  | span (days : Int)
  /-- A span that is undefined, or infinite. -/
  | boundless (isUndefined : Bool)
deriving DecidableEq, Repr

/-- A span of time in days, seconds and microseconds, the parts that are zero left out. -/
private def spanText (seconds micros : Int) : String :=
  let days := seconds.fdiv 86400
  let parts := [("days", days), ("seconds", seconds.fmod 86400), ("microseconds", micros)].filter (·.2 ≠ 0)
  if parts.isEmpty then "datetime.timedelta(0)"
  else "datetime.timedelta(" ++ ", ".intercalate (parts.map fun (name, n) => s!"{name}={n}") ++ ")"

def Fault.message : Fault → String
  | .malformed text => "Invalid isoformat string: " ++ Text.quoted text
  | .year given => s!"year {given} is out of range"
  | .part which =>
    let (low, high) := which.bounds
    which.name ++ s!" must be in {low}..{high}"
  | .day => "day is out of range for month"
  | .offset seconds micros => "offset must be a timedelta strictly between -timedelta(hours=24) and timedelta(hours=24), not "
      ++ spanText seconds micros ++ "."
  | .unreachable => "date value out of range"
  | .oversized given =>
    if given < -0x8000000000000000 ∨ 0x8000000000000000 ≤ given then "Python int too large to convert to C long"
    else if given < 0 then "signed integer is less than minimum"
    else "signed integer is greater than maximum"
  | .span days =>
    if days < -0x80000000 ∨ 0x80000000 ≤ days then "Python int too large to convert to C int"
    else s!"days={days}; must have magnitude <= 999999999"
  | .boundless true => "cannot convert float NaN to integer"
  | .boundless false => "cannot convert float infinity to integer"

def Fault.isOverflow : Fault → Bool
  | .unreachable | .oversized _ | .span _ | .boundless false => true
  | _ => false

end Passbook.Time
