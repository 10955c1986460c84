import Mathlib
import Passbook.Time.Instant

/-! Stamps sort as their instants do. The numbers of a stamp stand from the largest span of time to the smallest, each with as many
digits as it can have, so that the first that differs decides. -/
namespace Passbook
open Time

theorem Text.digits_append_lt {width m n : Nat} (below : m < n) (room : n < 10 ^ width) (rest rest' : List Char) :
    Text.digits width m ++ rest < Text.digits width n ++ rest' := by
  have lower : ∀ d < 10, ∀ d' < 10, d < d' → Char.ofNat (48 + d) < Char.ofNat (48 + d') := by decide
  induction width generalizing m n rest rest' with
  | zero => omega
  | succ width ih =>
    rw [Text.digits, Text.digits, List.append_assoc, List.append_assoc]
    have room' : n / 10 < 10 ^ width := by omega
    rcases Nat.lt_or_ge (m / 10) (n / 10) with higher | _
    · exact ih higher room' _ _
    · have same : m / 10 = n / 10 := by omega
      rw [same]
      apply List.append_left_lt
      have last : m % 10 < n % 10 := by omega
      exact List.cons_lt_cons_iff.mpr (.inl (lower _ (Nat.mod_lt m (by decide)) _ (Nat.mod_lt n (by decide)) last))

/-- Whether the first number that differs is smaller on the left. -/
def Precedes : List Nat → List Nat → Prop
  | [], _ => False
  | _ :: _, [] => False
  | m :: ms, n :: ns => m < n ∨ m = n ∧ Precedes ms ns

namespace Time.Date

theorem locate_ge (month : Nat) (lengths : List Nat) (n : Nat) : month ≤ (locate month lengths n).1 := by
  induction lengths generalizing month n with
  | nil => exact Nat.le_refl month
  | cons length lengths ih =>
    unfold locate
    split
    · exact Nat.le_refl month
    · exact Nat.le_trans (Nat.le_succ month) (ih (month + 1) (n - length))

theorem locate_le (month : Nat) (lengths : List Nat) (n : Nat) : (locate month lengths n).1 ≤ month + lengths.length := by
  induction lengths generalizing month n with
  | nil => exact Nat.le_refl month
  | cons length lengths ih =>
    unfold locate
    split
    · exact Nat.le_add_right month _
    · have := ih (month + 1) (n - length)
      rw [List.length_cons]
      omega

theorem locate_day {lengths : List Nat} (short : ∀ length ∈ lengths, length ≤ 31) (month n : Nat) :
    (locate month lengths n).2 ≤ 31 ∨ (locate month lengths n).2 + lengths.sum ≤ n + 1 := by
  induction lengths generalizing month n with
  | nil => exact .inr (Nat.le_refl _)
  | cons length lengths ih =>
    have bound := short length (by simp)
    unfold locate
    split
    · exact .inl (by dsimp only; omega)
    · rw [List.sum_cons]
      rcases ih (fun other among => short other (List.mem_cons_of_mem _ among)) (month + 1) (n - length) with inside | behind
      · exact .inl inside
      · exact .inr (by omega)

theorem locate_precedes {n n' : Nat} (below : n < n') (month : Nat) (lengths : List Nat) :
    (locate month lengths n).1 < (locate month lengths n').1 ∨
      (locate month lengths n).1 = (locate month lengths n').1 ∧ (locate month lengths n).2 < (locate month lengths n').2 := by
  induction lengths generalizing month n n' with
  | nil => exact .inr ⟨rfl, Nat.succ_lt_succ below⟩
  | cons length lengths ih =>
    have later := locate_ge (month + 1) lengths (n' - length)
    unfold locate
    by_cases here : n < length
    · by_cases here' : n' < length
      · rw [if_pos here, if_pos here']
        exact .inr ⟨rfl, Nat.succ_lt_succ below⟩
      · rw [if_pos here, if_neg here']
        exact .inl later
    · have notHere : ¬ n' < length := by omega
      rw [if_neg here, if_neg notHere]
      exact ih (by omega) (month + 1)

def placeInYear (n : Nat) : Nat :=
  let inEra := n % 146097
  let inCentury := inEra - 36524 * min (inEra / 36524) 3
  let inQuad := inCentury % 1461
  inQuad - 365 * min (inQuad / 365) 3

theorem month_ofDayNumber (n : Nat) :
    (ofDayNumber n).month = (locate 1 (monthLengths (isLeap (ofDayNumber n).year)) (placeInYear n)).1 := rfl

theorem day_ofDayNumber (n : Nat) :
    (ofDayNumber n).day = (locate 1 (monthLengths (isLeap (ofDayNumber n).year)) (placeInYear n)).2 := rfl

theorem year_ofDayNumber_lt {n : Nat} (room : n < daysBeforeYear 10000) : (ofDayNumber n).year < 10000 := by
  have limit : daysBeforeYear 10000 = 3652059 := by decide
  simp only [ofDayNumber]
  omega

theorem placeInYear_le (n : Nat) : placeInYear n ≤ 365 := by
  simp only [placeInYear]
  omega

theorem month_ofDayNumber_lt (n : Nat) : (ofDayNumber n).month < 100 := by
  have bound := locate_le 1 (monthLengths (isLeap (ofDayNumber n).year)) (placeInYear n)
  have twelve (leap : Bool) : (monthLengths leap).length = 12 := rfl
  rw [month_ofDayNumber]
  rw [twelve] at bound
  omega

theorem day_ofDayNumber_lt (n : Nat) : (ofDayNumber n).day < 100 := by
  have short (leap : Bool) : ∀ length ∈ monthLengths leap, length ≤ 31 := by cases leap <;> decide
  have year (leap : Bool) : 365 ≤ (monthLengths leap).sum := by cases leap <;> decide
  have place := placeInYear_le n
  have whole := year (isLeap (ofDayNumber n).year)
  rw [day_ofDayNumber]
  rcases locate_day (short (isLeap (ofDayNumber n).year)) 1 (placeInYear n) with inside | behind <;> omega

theorem quotient_precedes {n n' : Nat} (below : n < n') (length : Nat) :
    n / length < n' / length ∨ n / length = n' / length ∧ n % length < n' % length := by
  rcases Nat.lt_or_eq_of_le (Nat.div_le_div_right (c := length) below.le) with earlier | same
  · exact .inl earlier
  · refine .inr ⟨same, ?_⟩
    have left := Nat.div_add_mod n length
    have right := Nat.div_add_mod n' length
    rw [same] at left
    omega

theorem capped_precedes {n n' : Nat} (below : n < n') (length cap : Nat) :
    min (n / length) cap < min (n' / length) cap ∨
      min (n / length) cap = min (n' / length) cap ∧
        n - length * min (n / length) cap < n' - length * min (n' / length) cap := by
  have ordered : n / length ≤ n' / length := Nat.div_le_div_right below.le
  rcases Nat.lt_or_eq_of_le (min_le_min_right cap ordered) with earlier | same
  · exact .inl earlier
  · refine .inr ⟨same, ?_⟩
    rw [← same]
    have taken : length * min (n / length) cap ≤ n :=
      (Nat.mul_le_mul_left length (min_le_left _ _)).trans (Nat.mul_div_le n length)
    omega

theorem year_lt {era century quad single era' century' quad' single' : Nat} (centuries : century ≤ 3) (quads : quad ≤ 24)
    (singles : single ≤ 3) (first : Precedes [era, century, quad, single] [era', century', quad', single']) :
    400 * era + 100 * century + 4 * quad + single + 1 < 400 * era' + 100 * century' + 4 * quad' + single' + 1 := by
  simp only [Precedes, and_false, or_false] at first
  omega

theorem parts_bounded (n : Nat) : min (n % 146097 / 36524) 3 ≤ 3 ∧ (n % 146097 - 36524 * min (n % 146097 / 36524) 3) / 1461 ≤ 24 ∧
    min ((n % 146097 - 36524 * min (n % 146097 / 36524) 3) % 1461 / 365) 3 ≤ 3 :=
  ⟨min_le_right _ _, by omega, min_le_right _ _⟩

theorem year_ofDayNumber_mono {n n' : Nat} (below : n < n') :
    (ofDayNumber n).year < (ofDayNumber n').year ∨ (ofDayNumber n).year = (ofDayNumber n').year ∧ placeInYear n < placeInYear n' := by
  obtain ⟨centuries, quads, singles⟩ := parts_bounded n
  simp only [ofDayNumber, placeInYear]
  rcases quotient_precedes below 146097 with era | ⟨era, inEra⟩
  · exact .inl (year_lt centuries quads singles (.inl era))
  rcases capped_precedes inEra 36524 3 with century | ⟨century, inCentury⟩
  · exact .inl (year_lt centuries quads singles (.inr ⟨era, .inl century⟩))
  rcases quotient_precedes inCentury 1461 with quad | ⟨quad, inQuad⟩
  · exact .inl (year_lt centuries quads singles (.inr ⟨era, .inr ⟨century, .inl quad⟩⟩))
  rcases capped_precedes inQuad 365 3 with single | ⟨single, inYear⟩
  · exact .inl (year_lt centuries quads singles (.inr ⟨era, .inr ⟨century, .inr ⟨quad, .inl single⟩⟩⟩))
  · refine .inr ⟨?_, inYear⟩
    rw [single, quad, century, era]

theorem ofDayNumber_precedes {n n' : Nat} (below : n < n') :
    Precedes [(ofDayNumber n).year, (ofDayNumber n).month, (ofDayNumber n).day]
      [(ofDayNumber n').year, (ofDayNumber n').month, (ofDayNumber n').day] := by
  rcases year_ofDayNumber_mono below with earlier | ⟨same, place⟩
  · exact .inl earlier
  · refine .inr ⟨same, ?_⟩
    have located := locate_precedes place 1 (monthLengths (isLeap (ofDayNumber n).year))
    rw [month_ofDayNumber n, month_ofDayNumber n', day_ofDayNumber n, day_ofDayNumber n', ← same]
    rcases located with earlier | ⟨same, earlier⟩
    · exact .inl earlier
    · exact .inr ⟨same, .inl earlier⟩

end Time.Date
namespace Time.Instant
variable {s t : Instant}

theorem eq_of_micros (same : s.micros = t.micros) : s = t := by
  obtain ⟨m, _⟩ := s
  cases same
  rfl

theorem timeOfDay_lt (i : Instant) : i.timeOfDay < 86400000000 := Nat.mod_lt i.micros (by decide)

def numbers (i : Instant) : List Nat :=
  [i.date.year, i.date.month, i.date.day, i.timeOfDay / 1000000 / 3600, i.timeOfDay / 1000000 / 60 % 60, i.timeOfDay / 1000000 % 60,
    i.microsecond]

theorem numbers_precede (earlier : s < t) : Precedes s.numbers t.numbers := by
  have split (i : Instant) : i.microsecond = i.timeOfDay % 1000000 := (Nat.mod_mod_of_dvd i.micros (by decide)).symm
  rcases Date.quotient_precedes earlier microsPerDay with day | ⟨day, time⟩
  · have dates := Date.ofDayNumber_precedes day
    simp only [Precedes, and_false, or_false] at dates
    rcases dates with year | ⟨year, month | ⟨month, day⟩⟩
    · exact .inl year
    · exact .inr ⟨year, .inl month⟩
    · exact .inr ⟨year, .inr ⟨month, .inl day⟩⟩
  · have same : s.date = t.date := congrArg Date.ofDayNumber day
    have time : s.timeOfDay < t.timeOfDay := time
    unfold numbers
    rw [same, split, split]
    simp only [Precedes, lt_irrefl, false_or, true_and]
    generalize s.timeOfDay = m at time
    generalize t.timeOfDay = n at time
    omega

/-- The places of a stamp: what stands before each number, and with how many digits it is written. -/
def places : List (List Char × Nat) := [([], 4), (['-'], 2), (['-'], 2), (['T'], 2), ([':'], 2), ([':'], 2), (['.'], 6)]

def written : List (List Char × Nat) → List Nat → List Char
  | (before, width) :: places, n :: numbers => before ++ (Text.digits width n ++ written places numbers)
  | _, _ => []

theorem numbers_fit (i : Instant) : List.Forall₂ (fun place n => n < 10 ^ place.2) places i.numbers := by
  have day : i.micros / microsPerDay < daysBeforeYear 10000 := Nat.div_lt_of_lt_mul (Nat.mul_comm _ _ ▸ i.inSpan)
  have year : i.date.year < 10 ^ 4 := Date.year_ofDayNumber_lt day
  have month : i.date.month < 10 ^ 2 := Date.month_ofDayNumber_lt _
  have dayOfMonth : i.date.day < 10 ^ 2 := Date.day_ofDayNumber_lt _
  have micro : i.microsecond < 10 ^ 6 := Nat.mod_lt _ (by decide)
  have time := timeOfDay_lt i
  refine .cons year (.cons month (.cons dayOfMonth (.cons ?_ (.cons ?_ (.cons ?_ (.cons micro .nil)))))) <;> dsimp only <;> omega

theorem written_lt {places : List (List Char × Nat)} {ms ns : List Nat} (first : Precedes ms ns)
    (fit : List.Forall₂ (fun place n => n < 10 ^ place.2) places ns) (rest : List Char) :
    written places ms ++ rest < written places ns ++ rest := by
  induction fit generalizing ms with
  | nil => cases ms <;> exact first.elim
  | @cons place n places ns room _ ih =>
    cases ms with
    | nil => exact first.elim
    | cons m ms =>
      simp only [written, List.append_assoc]
      apply List.append_left_lt
      rcases first with below | ⟨rfl, below⟩
      · exact Text.digits_append_lt below room _ _
      · exact List.append_left_lt (ih below)

theorem stamp_lt (earlier : s < t) : s.stamp < t.stamp := by
  have shape (i : Instant) : i.stamp.toList = written places i.numbers ++ "+00:00".toList := by
    simp [stamp, fullChars, secondsChars, fractionChars, written, numbers, places]
  rw [String.lt_iff_toList_lt, shape, shape]
  exact written_lt (numbers_precede earlier) (numbers_fit t) _

/-- Stamps stand in the order of their instants. -/
theorem stamp_lt_iff : s.stamp < t.stamp ↔ s < t := by
  refine ⟨fun below => ?_, stamp_lt⟩
  rcases Nat.lt_trichotomy s.micros t.micros with earlier | same | later
  · exact earlier
  · rw [eq_of_micros same] at below
    exact absurd below (lt_irrefl _)
  · exact absurd (below.trans (stamp_lt later)) (lt_irrefl _)

theorem stamp_le_iff : s.stamp ≤ t.stamp ↔ s ≤ t := by
  rw [← not_lt, stamp_lt_iff]
  exact Nat.not_lt

end Time.Instant
end Passbook
