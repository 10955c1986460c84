import Passbook.Proofs.Stamps
import Passbook.Report

/-! Months of the calendar. Every day has one date and every date one day, so that the instants between the start of a month and that
of the next one are those that the calendar puts in the month. A month that is over stays over. -/
namespace Passbook
open Time

namespace Time.Date

theorem locate_take {lengths : List Nat} {k place length : Nat} (there : lengths[k]? = some length) (inside : place < length)
    (month : Nat) : locate month lengths ((lengths.take k).foldr (· + ·) 0 + place) = (month + k, place + 1) := by
  induction lengths generalizing k month with
  | nil => cases there
  | cons first lengths ih =>
    cases k with
    | zero =>
      cases there
      rw [List.take_zero, List.foldr_nil, Nat.zero_add, locate, if_pos inside]
      rfl
    | succ k =>
      have next := ih there (month + 1)
      have behind : first + (lengths.take k).foldr (· + ·) 0 + place - first = (lengths.take k).foldr (· + ·) 0 + place := by omega
      rw [List.take_succ_cons, List.foldr_cons, locate, if_neg (by omega), behind, next, Nat.add_right_comm, Nat.add_assoc]

theorem isLeap_spans (era : Nat) {century quad single : Nat} (centuries : century ≤ 3) (quads : quad ≤ 24) (singles : single ≤ 3) :
    isLeap (400 * era + 100 * century + 4 * quad + single + 1) = true ↔ single = 3 ∧ (quad = 24 → century = 3) := by
  simp only [isLeap, Bool.and_eq_true, Bool.or_eq_true, beq_iff_eq, bne_iff_ne]
  omega

theorem year_spans {year : Nat} (start : 1 ≤ year) :
    ∃ era century quad single, century ≤ 3 ∧ quad ≤ 24 ∧ single ≤ 3 ∧
      year = 400 * era + 100 * century + 4 * quad + single + 1 ∧
      daysBeforeYear year = 146097 * era + (36524 * century + (1461 * quad + 365 * single)) := by
  obtain ⟨era, century, quad, single, centuries, quads, singles, isYear⟩ :
      ∃ era century quad single, century ≤ 3 ∧ quad ≤ 24 ∧ single ≤ 3 ∧
        year = 400 * era + 100 * century + 4 * quad + single + 1 :=
    ⟨(year - 1) / 400, (year - 1) % 400 / 100, (year - 1) % 100 / 4, (year - 1) % 4, by omega⟩
  refine ⟨era, century, quad, single, centuries, quads, singles, isYear, ?_⟩
  have fours : (year - 1) / 4 = 100 * era + 25 * century + quad := by omega
  have hundreds : (year - 1) / 100 = 4 * era + century := by omega
  have eras : (year - 1) / 400 = era := by omega
  unfold daysBeforeYear
  dsimp only
  rw [fours, hundreds, eras, isYear]
  omega

theorem capped_quotient {length cap n rest : Nat} (positive : 0 < length) (within : n ≤ cap) (inside : n < cap → rest < length) :
    min ((length * n + rest) / length) cap = n := by
  rw [Nat.mul_add_div positive]
  rcases Nat.lt_or_eq_of_le within with below | rfl
  · rw [Nat.div_eq_of_lt (inside below), Nat.add_zero]
    exact Nat.min_eq_left within
  · exact Nat.min_eq_right (Nat.le_add_right _ _)

theorem ofDayNumber_of_place {year place : Nat} (start : 1 ≤ year) (inside : place < 365 + if isLeap year then 1 else 0) :
    (ofDayNumber (daysBeforeYear year + place)).year = year ∧ placeInYear (daysBeforeYear year + place) = place := by
  obtain ⟨era, century, quad, single, centuries, quads, singles, isYear, before⟩ := year_spans start
  have leap := isLeap_spans era centuries quads singles
  rw [← isYear] at leap
  -- Only the last year of a span may have a day more, so that each remainder stays below the length of its span.
  have short : place ≤ 365 ∧ (single < 3 ∨ quad = 24 ∧ century < 3 → place < 365) := by
    by_cases isLeapYear : isLeap year = true
    · have := leap.mp isLeapYear
      rw [if_pos isLeapYear] at inside
      omega
    · rw [if_neg isLeapYear] at inside
      omega
  have inQuad : 365 * single + place < 1461 := by omega
  have inCentury : 1461 * quad + (365 * single + place) ≤ 36524 ∧
      (century < 3 → 1461 * quad + (365 * single + place) < 36524) := by omega
  have inEra : 36524 * century + (1461 * quad + (365 * single + place)) < 146097 := by omega
  have whole : daysBeforeYear year + place = 146097 * era + (36524 * century + (1461 * quad + (365 * single + place))) := by omega
  have eras : (daysBeforeYear year + place) / 146097 = era ∧
      (daysBeforeYear year + place) % 146097 = 36524 * century + (1461 * quad + (365 * single + place)) := by omega
  have quads_ : (1461 * quad + (365 * single + place)) / 1461 = quad ∧
      (1461 * quad + (365 * single + place)) % 1461 = 365 * single + place := by omega
  have century_ : min ((36524 * century + (1461 * quad + (365 * single + place))) / 36524) 3 = century :=
    capped_quotient (by decide) centuries inCentury.2
  have single_ : min ((365 * single + place) / 365) 3 = single := capped_quotient (by decide) singles (by omega)
  simp only [ofDayNumber, placeInYear, eras, century_, Nat.add_sub_cancel_left, quads_, single_]
  exact ⟨isYear.symm, trivial⟩

theorem monthLengths_getElem? (year : Nat) {month : Nat} (low : 1 ≤ month) (high : month ≤ 12) :
    (monthLengths (isLeap year))[month - 1]? = some (monthLength year month) := by
  have twelve : (monthLengths (isLeap year)).length = 12 := rfl
  have inside : month - 1 < (monthLengths (isLeap year)).length := by omega
  rw [monthLength, List.getD_eq_getElem _ _ inside, List.getElem?_eq_getElem inside]

theorem daysBeforeMonth_add_le (year : Nat) {month : Nat} (low : 1 ≤ month) (high : month ≤ 12) :
    daysBeforeMonth year month + monthLength year month ≤ 365 + if isLeap year then 1 else 0 := by
  have whole (leap : Bool) : ∀ k < 12, ∀ length, (monthLengths leap)[k]? = some length →
      ((monthLengths leap).take k).foldr (· + ·) 0 + length ≤ 365 + if leap then 1 else 0 := by
    cases leap <;> decide
  exact whole (isLeap year) (month - 1) (by omega) _ (monthLengths_getElem? year low high)

theorem eq_of_parts {d d' : Date} (year : d.year = d'.year) (month : d.month = d'.month) (day : d.day = d'.day) : d = d' := by
  cases d
  cases d'
  cases year
  cases month
  cases day
  rfl

theorem ofDayNumber_dayNumber {d : Date} (valid : d.IsValid) : ofDayNumber d.dayNumber = d := by
  obtain ⟨start, low, high, early, late⟩ := valid
  have there := monthLengths_getElem? d.year low high
  have room := daysBeforeMonth_add_le d.year low high
  have inside : daysBeforeMonth d.year d.month + (d.day - 1) < 365 + if isLeap d.year then 1 else 0 := by omega
  obtain ⟨year, place⟩ := ofDayNumber_of_place start inside
  have located := locate_take there (by omega : d.day - 1 < monthLength d.year d.month) 1
  rw [← Nat.add_assoc] at year place
  have month := month_ofDayNumber d.dayNumber
  have day := day_ofDayNumber d.dayNumber
  unfold dayNumber at month day ⊢
  rw [year, place, daysBeforeMonth, located] at month day
  refine eq_of_parts year (month.trans ?_) (day.trans ?_)
  · exact Nat.add_sub_cancel' low
  · exact Nat.sub_add_cancel early

def Reaches (d : Date) (year month : Nat) : Prop := year < d.year ∨ year = d.year ∧ month ≤ d.month

theorem placeInYear_lt (n : Nat) : placeInYear n < 365 + if isLeap (ofDayNumber n).year then 1 else 0 := by
  obtain ⟨centuries, quads, singles⟩ := parts_bounded n
  have leap : isLeap (ofDayNumber n).year = true ↔ _ := isLeap_spans (n / 146097) centuries quads singles
  simp only [placeInYear]
  by_cases isLeapYear : isLeap (ofDayNumber n).year = true
  · rw [if_pos isLeapYear]
    omega
  · have short := mt leap.mpr isLeapYear
    rw [if_neg isLeapYear]
    omega

theorem placeInYear_lt_sum (n : Nat) : placeInYear n < (monthLengths (isLeap (ofDayNumber n).year)).sum := by
  have whole (leap : Bool) : (monthLengths leap).sum = 365 + if leap then 1 else 0 := by cases leap <;> rfl
  rw [whole]
  exact placeInYear_lt n

theorem locate_lt {lengths : List Nat} {n : Nat} (inside : n < lengths.sum) (month : Nat) :
    (locate month lengths n).1 < month + lengths.length := by
  induction lengths generalizing month n with
  | nil => exact absurd inside (Nat.not_lt_zero n)
  | cons length lengths ih =>
    rw [List.sum_cons] at inside
    unfold locate
    split
    · exact Nat.lt_add_of_pos_right (Nat.succ_pos _)
    · have := ih (n := n - length) (by omega) (month + 1)
      rw [List.length_cons]
      omega

theorem one_le_locate (month : Nat) (lengths : List Nat) (n : Nat) : 1 ≤ (locate month lengths n).2 := by
  induction lengths generalizing month n with
  | nil => exact Nat.succ_pos n
  | cons length lengths ih =>
    unfold locate
    split
    · exact Nat.succ_pos n
    · exact ih _ _

theorem month_le_twelve (n : Nat) : (ofDayNumber n).month ≤ 12 := by
  rw [month_ofDayNumber]
  exact Nat.le_of_lt_succ (locate_lt (placeInYear_lt_sum n) 1)

theorem first_isValid {year month : Nat} (start : 1 ≤ year) (low : 1 ≤ month) (high : month ≤ 12) :
    (Date.mk year month 1).IsValid := by
  have long (leap : Bool) : ∀ k, k < 12 → 1 ≤ (monthLengths leap).getD k 0 := by cases leap <;> decide
  exact ⟨start, low, high, Nat.le_refl 1, long _ _ (by dsimp only; omega)⟩

theorem reaches_iff {year month : Nat} (start : 1 ≤ year) (low : 1 ≤ month) (high : month ≤ 12) (n : Nat) :
    (ofDayNumber n).Reaches year month ↔ (Date.mk year month 1).dayNumber ≤ n := by
  have same := ofDayNumber_dayNumber (first_isValid start low high)
  constructor
  · intro reaches
    by_contra before
    have precedes := ofDayNumber_precedes (Nat.lt_of_not_le before)
    have early := one_le_locate 1 (monthLengths (isLeap (ofDayNumber n).year)) (placeInYear n)
    rw [← day_ofDayNumber] at early
    rw [same] at precedes
    simp only [Precedes, and_false, or_false] at precedes
    unfold Reaches at reaches
    omega
  · intro behind
    rcases Nat.lt_or_eq_of_le behind with later | rfl
    · have precedes := ofDayNumber_precedes later
      rw [same] at precedes
      simp only [Precedes, and_false, or_false] at precedes
      unfold Reaches
      omega
    · rw [same]
      exact .inr ⟨rfl, Nat.le_refl month⟩

end Time.Date
namespace Time
variable {year month : Int} {i s t : Instant}

/-- The calendar month of universal time in which an instant lies. -/
def Instant.InMonth (i : Instant) (year month : Int) : Prop := i.year = year ∧ i.month = month

instance (i : Instant) (year month : Int) : Decidable (i.InMonth year month) := inferInstanceAs (Decidable (_ ∧ _))

theorem Instant.month_mono (ordered : s ≤ t) : s.year < t.year ∨ s.year = t.year ∧ s.month ≤ t.month := by
  rcases Nat.lt_or_eq_of_le (Nat.div_le_div_right (c := microsPerDay) ordered) with earlier | same
  · have precedes := Date.ofDayNumber_precedes earlier
    simp only [Precedes, and_false, or_false] at precedes
    unfold Instant.year Instant.month Instant.date
    omega
  · have same : s.date = t.date := congrArg Date.ofDayNumber same
    unfold Instant.year Instant.month
    rw [same]
    exact .inr ⟨rfl, Nat.le_refl _⟩

theorem Instant.year_le (i : Instant) : i.year ≤ 9999 := by
  have day : i.micros / microsPerDay < daysBeforeYear 10000 := Nat.div_lt_of_lt_mul (Nat.mul_comm _ _ ▸ i.inSpan)
  exact Nat.le_of_lt_succ (Date.year_ofDayNumber_lt day)

theorem Instant.month_le (i : Instant) : i.month ≤ 12 := Date.month_le_twelve _

theorem Instant.one_le_month (i : Instant) : 1 ≤ i.month := by
  unfold Instant.month Instant.date
  rw [Date.month_ofDayNumber]
  exact Date.locate_ge 1 _ _

theorem isMonth_iff : isMonth month = true ↔ 1 ≤ month ∧ month ≤ 12 := by
  simp [isMonth]

theorem wallOf_first_reaches (start : 1 ≤ year) (last : year ≤ 9999) (low : 1 ≤ month) (high : month ≤ 12) :
    ∃ first, Reading.wallOf year month 1 0 0 0 0 = .ok first ∧
      ∀ i : Instant, first ≤ i ↔ year < i.year ∨ year = i.year ∧ month ≤ i.month := by
  rw [Reading.wallOf_first start last low high]
  obtain ⟨year, rfl⟩ := Int.eq_ofNat_of_zero_le (by omega : 0 ≤ year)
  obtain ⟨month, rfl⟩ := Int.eq_ofNat_of_zero_le (by omega : 0 ≤ month)
  have start : 1 ≤ year := by omega
  have low : 1 ≤ month := by omega
  have high : month ≤ 12 := by omega
  have inside : (Date.mk year month 1).dayNumber < daysBeforeYear 10000 := by
    by_contra outside
    have late := (Date.reaches_iff (by decide : 1 ≤ 10000) (Nat.le_refl 1) (by decide) _).mpr (Nat.le_of_not_lt outside)
    rw [Date.ofDayNumber_dayNumber (Date.first_isValid start low high)] at late
    simp only [Date.Reaches] at late
    omega
  have inSpan : (Date.mk year month 1).dayNumber * microsPerDay < span := (Nat.mul_lt_mul_right (by decide)).mpr inside
  refine ⟨⟨_, inSpan⟩, ?_, fun i => ?_⟩
  · have micros : Instant.ofMicros? ((Date.mk year month 1).dayNumber * 86400000000) = some ⟨_, inSpan⟩ :=
      dif_pos ⟨Int.natCast_nonneg _, inSpan⟩
    rw [Int.toNat_natCast, Int.toNat_natCast, micros]
  · have days : (Date.mk year month 1).dayNumber * microsPerDay ≤ i.micros ↔
        (Date.mk year month 1).dayNumber ≤ i.micros / microsPerDay :=
      (Nat.le_div_iff_mul_le (by decide)).symm
    have reaches := Date.reaches_iff start low high (i.micros / microsPerDay)
    refine days.trans (reaches.symm.trans ?_)
    unfold Date.Reaches Instant.year Instant.month Instant.date
    omega

/-- The first instant of a month and that of the next one are there, and tell which instants lie in the month and which after it. -/
theorem monthBounds_reaches (start : 1 ≤ year) (known : isMonth month = true) (room : year < 9999 ∨ year = 9999 ∧ month < 12) :
    ∃ first next, monthBounds year month = .ok (first, next) ∧
      (∀ i : Instant, first ≤ i ↔ year < i.year ∨ year = i.year ∧ month ≤ i.month) ∧
      ∀ i : Instant, next ≤ i ↔ year < i.year ∨ year = i.year ∧ month < i.month := by
  obtain ⟨low, high⟩ := isMonth_iff.mp known
  obtain ⟨first, starts, reaches⟩ := wallOf_first_reaches start (by omega) low high
  have following_ : 1 ≤ (following year month).1 ∧ (following year month).1 ≤ 9999 ∧ 1 ≤ (following year month).2 ∧
      (following year month).2 ≤ 12 := by
    unfold following
    split <;> dsimp only <;> omega
  obtain ⟨next, ends, passes⟩ := wallOf_first_reaches following_.1 following_.2.1 following_.2.2.1 following_.2.2.2
  refine ⟨first, next, monthBounds_of_isMonth known starts ends, reaches, fun i => (passes i).trans ?_⟩
  have inYear := i.month_le
  have positive := i.one_le_month
  unfold following
  split <;> dsimp only <;> omega

/-- The bounds of a month hold between them just the instants that the calendar puts in the month. -/
theorem monthBounds_spans (start : 1 ≤ year) (known : isMonth month = true) (room : year < 9999 ∨ year = 9999 ∧ month < 12) :
    ∃ first next, monthBounds year month = .ok (first, next) ∧ ∀ i : Instant, (first ≤ i ∧ i < next) ↔
      i.InMonth year month := by
  obtain ⟨first, next, bounds, reaches, passes⟩ := monthBounds_reaches start known room
  refine ⟨first, next, bounds, fun i => ?_⟩
  have before : i < next ↔ ¬ next ≤ i := Nat.not_le.symm
  rw [before, reaches, passes]
  unfold Instant.InMonth
  omega

end Time

namespace Report
variable {year month : Int} {clock : Reading} {time : Instant}

theorem isOver_iff : isOver year month clock = true ↔ year < clock.wall.year ∨ year = clock.wall.year ∧ month < clock.wall.month := by
  simp [isOver, Instant.year, Instant.month]

/-- A month that is over does not come again. -/
theorem not_inMonth_of_isOver (ended : isOver year month clock = true) (later : clock.wall ≤ time) : ¬ time.InMonth year month := by
  have mono := Instant.month_mono later
  have ended := isOver_iff.mp ended
  unfold Instant.InMonth
  omega

theorem room_of_isOver (ended : isOver year month clock = true) : year < 9999 ∨ year = 9999 ∧ month < 12 := by
  have ended := isOver_iff.mp ended
  have last := clock.wall.year_le
  have inYear := clock.wall.month_le
  omega

end Report
end Passbook
