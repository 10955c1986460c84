import Passbook.Decimal.Shortest
import Passbook.Text.Padded
import Passbook.Time.Calendar
import Passbook.Time.Fault
/-! Moments to the microsecond. An instant lies on the line of universal time, a reading is what a clock shows: a wall time
and, unless the clock is naive, its offset. Texts are ISO 8601; the stamp of an instant has one width for all
instants, so that stamps sort as their instants do. -/
namespace Passbook.Time

def microsPerDay : Nat := 86400000000

/-- Length in microseconds of the years 1 to 9999. -/
def span : Nat := daysBeforeYear 10000 * microsPerDay

/-- Microseconds since the start of year 1. -/
structure Instant where
  micros : Nat
  inSpan : micros < span
deriving DecidableEq, Repr

def checkSpan (micros : Int) : Except Fault Unit :=
  let days := micros.fdiv microsPerDay
  if 999999999 < days.natAbs then .error (.span days) else .ok ()

namespace Instant

instance : LT Instant := ⟨fun a b => a.micros < b.micros⟩
instance : LE Instant := ⟨fun a b => a.micros ≤ b.micros⟩
instance (a b : Instant) : Decidable (a < b) := inferInstanceAs (Decidable (a.micros < b.micros))
instance (a b : Instant) : Decidable (a ≤ b) := inferInstanceAs (Decidable (a.micros ≤ b.micros))

def ofMicros? (n : Int) : Option Instant :=
  if h : 0 ≤ n ∧ n.toNat < span then some ⟨n.toNat, h.2⟩ else none

def shift (i : Instant) (micros : Int) : Except Fault Instant := do
  checkSpan micros
  match ofMicros? (i.micros + micros) with
  | some later => return later
  | none => throw .unreachable

def default : Instant := ⟨63819748800000000, by decide +kernel⟩

instance : Inhabited Instant := ⟨default⟩

def date (i : Instant) : Date := Date.ofDayNumber (i.micros / microsPerDay)

def year (i : Instant) : Nat := i.date.year

def month (i : Instant) : Nat := i.date.month

def timeOfDay (i : Instant) : Nat := i.micros % microsPerDay

def microsecond (i : Instant) : Nat := i.micros % 1000000

def secondsChars (i : Instant) : List Char :=
  let d := i.date
  let s := i.timeOfDay / 1000000
  Text.digits 4 d.year ++ '-' :: Text.digits 2 d.month ++ '-' :: Text.digits 2 d.day
    ++ 'T' :: Text.digits 2 (s / 3600) ++ ':' :: Text.digits 2 (s / 60 % 60) ++ ':' :: Text.digits 2 (s % 60)

def fractionChars (i : Instant) : List Char := '.' :: Text.digits 6 i.microsecond

def fullChars (i : Instant) : List Char := i.secondsChars ++ i.fractionChars

def briefChars (i : Instant) : List Char :=
  if i.microsecond = 0 then i.secondsChars else i.fullChars

/-- The stored form of an instant. -/
def stamp (i : Instant) : String := String.ofList (i.fullChars ++ "+00:00".toList)

def text (i : Instant) : String := String.ofList (i.briefChars ++ "+00:00".toList)

/-- As `text`, with the letter for universal time instead of an offset. -/
def zuluText (i : Instant) : String := String.ofList (i.briefChars ++ ['Z'])

end Instant

/-- Distance of a clock from universal time, shorter than a day. -/
structure Offset where
  micros : Int
  withinDay : micros.natAbs < microsPerDay
deriving DecidableEq, Repr

def Offset.utc : Offset := ⟨0, by decide⟩

def Offset.ofSeconds? (seconds micros : Int) : Except Fault Offset := do
  let total := seconds * 1000000 + micros
  checkSpan total
  if h : total.natAbs < microsPerDay then return ⟨total, h⟩
  else throw (.offset (total.fdiv 1000000) (total.fmod 1000000))

/-- Microseconds of a number of seconds. Its fraction is taken times a million as a double; what is then left below a
microsecond is rounded, a half to the even side of the whole sum. -/
private def microsOf? (seconds : Float) : Option Int := do
  let whole ← Decimal.truncated? seconds
  let fraction := 1000000.0 * (seconds - if seconds < 0.0 then seconds.ceil else seconds.floor)
  let micros ← Decimal.truncated? fraction
  let rest := fraction - if fraction < 0.0 then fraction.ceil else fraction.floor
  let sum := whole * 1000000 + micros
  let step : Int := if rest < 0.0 then -1 else 1
  return if rest.abs > 0.5 || (rest.abs == 0.5 && sum % 2 != 0) then sum + step else sum

def Offset.ofFloat? (seconds : Float) : Except Fault Offset :=
  match microsOf? seconds with
  | some micros => Offset.ofSeconds? 0 micros
  | none => .error (.boundless (seconds != seconds))

def Offset.chars (o : Offset) : List Char :=
  let n := o.micros.natAbs
  let s := n / 1000000
  (if o.micros < 0 then '-' else '+') :: Text.digits 2 (s / 3600) ++ ':' :: Text.digits 2 (s / 60 % 60)
    ++ (if s % 60 = 0 ∧ n % 1000000 = 0 then [] else ':' :: Text.digits 2 (s % 60))
    ++ (if n % 1000000 = 0 then [] else '.' :: Text.digits 6 (n % 1000000))

/-- What a clock shows: `wall` is the instant at which a clock of universal time shows the same. -/
structure Reading where
  wall : Instant
  offset : Option Offset
deriving DecidableEq, Repr

namespace Reading

def default : Reading := ⟨Instant.default, some .utc⟩

def ofUnixMicros? (micros : Int) : Option Reading :=
  (Instant.ofMicros? ((Date.mk 1970 1 1).dayNumber * microsPerDay + micros)).map fun wall => ⟨wall, some .utc⟩

/-- The instant of a reading; a naive clock is taken to show universal time. -/
def instant (r : Reading) : Except Fault Instant :=
  match r.offset with
  | none => .ok r.wall
  | some o => match Instant.ofMicros? ((r.wall.micros : Int) - o.micros) with
    | some i => .ok i
    | none => .error .unreachable

def text (r : Reading) : String :=
  String.ofList (r.wall.briefChars ++ (r.offset.map Offset.chars).getD [])

def check (which : Part) (given : Int) : Except Fault Unit :=
  let (low, high) := which.bounds
  if low ≤ given ∧ given ≤ high then .ok () else .error (.part which)

/-- A wall time from its parts; the leftmost part out of bounds is reported, sizes first. -/
def wallOf (year month day hour minute second micro : Int) : Except Fault Instant := do
  for n in [year, month, day, hour, minute, second, micro] do
    if n < -0x80000000 ∨ 0x80000000 ≤ n then throw (.oversized n)
  if year < 1 ∨ 9999 < year then throw (.year year)
  check .month month
  if day < 1 ∨ monthLength year.toNat month.toNat < day.toNat then throw .day
  check .hour hour
  check .minute minute
  check .second second
  check .microsecond micro
  let days := (Date.mk year.toNat month.toNat day.toNat).dayNumber
  match Instant.ofMicros? (days * 86400000000 + ((hour * 60 + minute) * 60 + second) * 1000000 + micro) with
  | some i => return i
  | none => throw .unreachable

theorem wallOf_first {year month : Int} (start : 1 ≤ year) (last : year ≤ 9999) (low : 1 ≤ month) (high : month ≤ 12) :
    wallOf year month 1 0 0 0 0 =
      match Instant.ofMicros? ((Date.mk year.toNat month.toNat 1).dayNumber * 86400000000) with
      | some i => .ok i
      | none => .error .unreachable := by
  have sized : ¬ (year < -0x80000000 ∨ 0x80000000 ≤ year) ∧ ¬ (month < -0x80000000 ∨ 0x80000000 ≤ month) := by omega
  have inYears : ¬ (year < 1 ∨ 9999 < year) := by omega
  have inYear : check .month month = .ok () := if_pos ⟨low, high⟩
  have midnight : check .hour 0 = .ok () ∧ check .minute 0 = .ok () ∧ check .second 0 = .ok () ∧ check .microsecond 0 = .ok () :=
    ⟨rfl, rfl, rfl, rfl⟩
  have long (leap : Bool) : ∀ k, k < 12 → (monthLengths leap).getD k 0 ≠ 0 := by
    cases leap <;> decide
  have there : monthLength year.toNat month.toNat ≠ 0 := long _ _ (by omega)
  unfold wallOf
  simp [sized, inYears, inYear, midnight, there]
  generalize Instant.ofMicros? ((Date.mk year.toNat month.toNat 1).dayNumber * 86400000000) = instant
  cases instant <;> rfl

theorem one_le_of_wallOf {year month day hour minute second micro : Int} {i : Instant}
    (told : wallOf year month day hour minute second micro = .ok i) : 1 ≤ year := by
  apply Int.not_lt.mp
  intro before
  unfold wallOf at told
  rw [if_pos (.inl before)] at told
  rcases sized : (forIn [year, month, day, hour, minute, second, micro] PUnit.unit fun n _ => do
      if n < -0x80000000 ∨ 0x80000000 ≤ n then throw (.oversized n)
      pure (.yield PUnit.unit) : Except Fault PUnit) with fault | _
  · cases (congrArg (· >>= _) sized).symm.trans told
  · cases (congrArg (· >>= _) sized).symm.trans told

end Reading

end Passbook.Time
