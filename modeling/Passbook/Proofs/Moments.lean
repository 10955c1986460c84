import Passbook.Proofs.Courses
import Passbook.Proofs.Timestamps

/-! The stored text of what a clock shows. Whatever the offset of the clock, its text is the stamp of the moment that it shows, so that
texts stand in the order of the moments and each is read as the moment that it was written of. -/
namespace Passbook.Time

theorem Instant.stamp_injective {i j : Instant} (same : i.stamp = j.stamp) : i = j := by
  have read := i.ofText_stamp
  rw [same, j.ofText_stamp] at read
  exact (congrArg Reading.wall (Except.ok.inj read)).symm

namespace Reading
variable {x y : Reading} {i j : Instant}

/-- The moment that a clock shows lies in the years 1 to 9999. Its wall time always does. -/
def InYears (r : Reading) : Prop := 0 ≤ r.moment ∧ r.moment < span

instance (r : Reading) : Decidable r.InYears := inferInstanceAs (Decidable (_ ∧ _))

theorem InYears.shows (inside : x.InYears) : ∃ i, x.instant = .ok i := by
  have found (n : Int) (low : 0 ≤ n) (high : n < span) : ∃ i, Instant.ofMicros? n = some i :=
    ⟨_, dif_pos ⟨low, (Int.toNat_lt low).mpr high⟩⟩
  obtain ⟨low, high⟩ := inside
  unfold moment at low high
  unfold instant
  cases offset : x.offset with
  | none => exact ⟨x.wall, rfl⟩
  | some o =>
    rw [offset] at low high
    obtain ⟨i, there⟩ := found (x.wall.micros - o.micros) low high
    simp only [there]
    exact ⟨i, rfl⟩

theorem instant_of_stamp (i : Instant) : (ofText i.stamp >>= instant) = .ok i := by
  rw [i.ofText_stamp]
  exact instant_universal i

theorem stamp_lt_iff_moment (first : x.instant = .ok i) (second : y.instant = .ok j) : i.stamp < j.stamp ↔ x.moment < y.moment := by
  have order : i < j ↔ i.micros < j.micros := Iff.rfl
  rw [Instant.stamp_lt_iff, order, ← moment_of_instant first, ← moment_of_instant second, Int.ofNat_lt]

theorem stamp_eq_iff_moment (first : x.instant = .ok i) (second : y.instant = .ok j) : i.stamp = j.stamp ↔ x.moment = y.moment := by
  rw [← moment_of_instant first, ← moment_of_instant second, Int.ofNat_inj]
  exact ⟨fun same => congrArg Instant.micros (Instant.stamp_injective same),
    fun same => congrArg Instant.stamp (Instant.eq_of_micros same)⟩

/-- An offset of whole seconds leaves the microsecond as the clock shows it. -/
theorem microsecond_of_whole (shown : x.instant = .ok i) (whole : (x.offset.map Offset.micros).getD 0 % 1000000 = 0) :
    i.microsecond = x.wall.microsecond := by
  have moment := moment_of_instant shown
  unfold Reading.moment at moment
  unfold Instant.microsecond
  omega

/-- What is stored of clocks, whatever their offsets, tells their moments apart and in order. It is read to the microsecond as the
moment that was shown, in universal time, and what has been read is written as the same text again. -/
theorem stored_faithful (first : x.InYears) (second : y.InYears) :
    ∃ s t : String, x.instant.map Instant.stamp = .ok s ∧ y.instant.map Instant.stamp = .ok t ∧
      (∃ i, ofText s = .ok (.universal i) ∧ (ofText s >>= instant) = .ok i ∧ (i.micros : Int) = x.moment ∧
        (i.microsecond : Int) = x.moment % 1000000 ∧
        ((x.offset.map Offset.micros).getD 0 % 1000000 = 0 → i.microsecond = x.wall.microsecond)) ∧
      (s < t ↔ x.moment < y.moment) ∧ (s = t ↔ x.moment = y.moment) ∧
      ∀ (r : Reading) (text : String), r.instant.map Instant.stamp = .ok text →
        (ofText text >>= instant).map Instant.stamp = .ok text := by
  obtain ⟨i, shown⟩ := first.shows
  obtain ⟨j, shown'⟩ := second.shows
  have moment := moment_of_instant shown
  refine ⟨i.stamp, j.stamp, ?_, ?_, ⟨i, i.ofText_stamp, instant_of_stamp i, moment, ?_, microsecond_of_whole shown⟩,
    stamp_lt_iff_moment shown shown', stamp_eq_iff_moment shown shown', fun r text written => ?_⟩
  · rw [shown]
    rfl
  · rw [shown']
    rfl
  · rw [← moment]
    exact Int.natCast_mod i.micros 1000000
  · cases told : r.instant with
    | error fault =>
      rw [told] at written
      cases written
    | ok k =>
      rw [told] at written
      have same : k.stamp = text := Except.ok.inj written
      rw [← same, instant_of_stamp]
      rfl

/-- The microsecond of the moment need not be the one that the clock shows: half a second of its offset goes into it. -/
theorem microsecond_not_kept :
    let x : Reading := ⟨⟨63819705600000000, by decide +kernel⟩, some ⟨3600500000, by decide⟩⟩
    x.InYears ∧ x.wall.microsecond = 0 ∧ ∃ text i, x.instant.map Instant.stamp = .ok text ∧ (ofText text >>= instant) = .ok i ∧
      (i.micros : Int) = x.moment ∧ i.microsecond = 500000 := by
  intro x
  have shown : x.instant = .ok ⟨63819701999500000, by decide +kernel⟩ := by decide +kernel
  exact ⟨by decide +kernel, by decide, _, _, congrArg (Except.map Instant.stamp) shown, instant_of_stamp _, moment_of_instant shown,
    by decide⟩

/-- Half an hour before midnight on a clock that is an hour behind comes after a quarter past midnight on one without offset. -/
theorem stored_faithful_across_years :
    let evening : Reading := ⟨⟨63839662200000000, by decide +kernel⟩, some ⟨-3600000000, by decide⟩⟩
    let midnight : Reading := ⟨⟨63839664900000000, by decide +kernel⟩, none⟩
    (midnight.InYears ∧ evening.InYears) ∧ evening.wall < midnight.wall ∧
      ∃ s t : String, midnight.instant.map Instant.stamp = .ok s ∧ evening.instant.map Instant.stamp = .ok t ∧ s < t := by
  intro evening midnight
  have first : midnight.InYears := by decide +kernel
  have second : evening.InYears := by decide +kernel
  obtain ⟨s, t, written, written', -, order, -⟩ := stored_faithful first second
  exact ⟨⟨first, second⟩, by decide, s, t, written, written', order.mpr (by decide)⟩

end Reading
end Passbook.Time
