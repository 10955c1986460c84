import Passbook.Time.Instant
/-! Calendar months of universal time. -/
namespace Passbook.Time

inductive MonthFault where
  | month (given : Int)
  | calendar (fault : Fault)
deriving DecidableEq, Repr

def MonthFault.message : MonthFault → String
  | .month given => s!"Month must be between 1 and 12, got {given}"
  | .calendar fault => fault.message

private def firstInstant (year month : Int) : Except MonthFault Instant :=
  (Reading.wallOf year month 1 0 0 0 0).mapError .calendar

def isMonth (month : Int) : Bool := 1 ≤ month && month ≤ 12

/-- First instant of a month and of the next one. -/
def monthBounds (year month : Int) : Except MonthFault (Instant × Instant) := do
  if !isMonth month then throw (.month month)
  let first ← firstInstant year month
  let next ← if month = 12 then firstInstant (year + 1) 1 else firstInstant year (month + 1)
  return (first, next)

def following (year month : Int) : Int × Int := if month = 12 then (year + 1, 1) else (year, month + 1)

theorem monthBounds_of_isMonth {year month : Int} {first next : Instant} (known : isMonth month = true)
    (starts : Reading.wallOf year month 1 0 0 0 0 = .ok first)
    (ends : Reading.wallOf (following year month).1 (following year month).2 1 0 0 0 0 = .ok next) :
    monthBounds year month = .ok (first, next) := by
  have first_ : firstInstant year month = .ok first := by
    rw [firstInstant, starts]
    rfl
  have next_ : firstInstant (following year month).1 (following year month).2 = .ok next := by
    rw [firstInstant, ends]
    rfl
  unfold following at next_
  unfold monthBounds
  simp only [known, first_]
  by_cases last : month = 12
  · simp only [if_pos last] at next_ ⊢
    rw [next_]
    rfl
  · simp only [if_neg last] at next_ ⊢
    rw [next_]
    rfl

theorem one_le_of_monthBounds {year month : Int} {bounds : Instant × Instant} (told : monthBounds year month = .ok bounds) :
    1 ≤ year := by
  cases known : isMonth month with
  | false =>
    simp only [monthBounds, known] at told
    cases told
  | true =>
    cases starts : Reading.wallOf year month 1 0 0 0 0 with
    | ok first => exact Reading.one_le_of_wallOf starts
    | error fault =>
      have first_ : firstInstant year month = .error (.calendar fault) := by
        rw [firstInstant, starts]
        rfl
      simp only [monthBounds, known, first_] at told
      cases told

end Passbook.Time
