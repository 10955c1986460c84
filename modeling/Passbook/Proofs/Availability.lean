import Passbook.Proofs.Courses
import Passbook.Proofs.Reports

/-! When a report is available. A month of universal time counts as over once the wall time of the clock that is asked lies past its
end, whatever the offset of that clock: east of universal time a report can be had too early by just the offset, and west of it too
late. -/
namespace Passbook
open Time

namespace Act
variable {σ δ α β : Type} {e : Failure}

def Spares (e : Failure) (act : Act σ α) : Prop := ∀ s, (act s).1 ≠ .error e

theorem Spares.pure (a : α) : Spares e (pure a : Act σ α) := fun _ => nofun

theorem Spares.throw {e' : Failure} (other : e' ≠ e) : Spares e (throw e' : Act σ α) :=
  fun _ same => other (Except.error.inj same)

theorem Spares.ofExcept {outcome : Except Failure α} (other : outcome ≠ .error e) : Spares e (ofExcept outcome : Act σ α) :=
  fun _ => other

theorem Spares.bind {act : Act σ α} {next : α → Act σ β} (first : act.Spares e) (rest : ∀ a, (next a).Spares e) :
    (act >>= next).Spares e := by
  intro s
  rcases ran : act s with ⟨e' | a, t⟩
  · have other := first s
    rw [ran] at other
    rw [bind_of_error ran]
    exact fun same => other (congrArg _ (Except.error.inj same))
  · rw [bind_of_ok ran]
    exact rest a t

theorem Spares.onStore [Holds σ δ] {w : Work δ α} (spares : w.Spares e) : Spares e (Act.onStore w : Act σ α) :=
  fun s => spares (Holds.store s)

end Act

def Failure.withheld (year month : Int) : Failure := .ledger (.reportNotAvailable year month)

section
variable {year month : Int}

theorem Failure.ofStore_ne_withheld (told : StoreError) : ofStore told ≠ withheld year month := by
  cases told <;> simp [ofStore, withheld]

theorem Work.execute_spares {δ α : Type} (operation : String) (statement : Statement δ α) :
    (execute operation statement).Spares (.withheld year month) := by
  intro s
  unfold execute
  cases s.status with
  | idle => simp [Failure.withheld]
  | closed => simp [Failure.withheld]
  | busy saved deferred =>
    dsimp only
    cases statement deferred s.content with
    | ok answer => exact nofun
    | error r => exact fun same => Failure.ofStore_ne_withheld _ (Except.error.inj same)

theorem Work.inUnit_spares {δ α : Type} [Keyed δ] {w : Work δ α} (spares : w.Spares (.withheld year month)) :
    (inUnit w).Spares (.withheld year month) := by
  intro s
  cases status : s.status with
  | idle =>
    rw [inUnit_eq status]
    have other := spares { s with status := .busy s.content false }
    generalize w { s with status := .busy s.content false } = ended at other
    obtain ⟨e | a, t⟩ := ended
    · simp only [closeUnit, rollback]
      split
      · exact other
      · simp [Failure.withheld]
    · simp only [closeUnit, commit]
      split
      · split <;> simp [orphansAtCommit, Failure.withheld]
      · simp [Failure.withheld]
  | busy saved deferred =>
    rw [inUnit_refused s saved deferred status]
    simp [openSession, Failure.withheld]
  | closed =>
    rw [inUnit_of_closed status]
    simp [closedStore, Failure.withheld]

end

namespace Report
variable {year month y m : Int}

theorem mapM_ne_error {ε α β : Type} {f : α → Except ε β} {e : ε} (each : ∀ a, f a ≠ .error e) (items : List α) :
    items.mapM f ≠ .error e := by
  induction items with
  | nil => exact nofun
  | cons item items ih =>
    rw [List.mapM_cons]
    cases first : f item with
    | error e' =>
      intro same
      rw [Except.error.inj same] at first
      exact each item first
    | ok b =>
      cases rest : items.mapM f with
      | error e' =>
        intro same
        rw [Except.error.inj same] at rest
        exact ih rest
      | ok bs => exact nofun

theorem bind_pure_ne_error {ε α β : Type} {x : Except ε α} {g : α → β} {e : ε} (other : x ≠ .error e) :
    (x >>= fun a => pure (g a)) ≠ .error e := by
  cases x with
  | error e' => exact fun same => other (congrArg _ (Except.error.inj same))
  | ok a => exact nofun

theorem monthly_spares : (monthly y m).Spares (.withheld year month) := by
  unfold monthly
  refine .bind (.ofExcept ?_) fun _ => .bind (Work.execute_spares _ _) fun totals => .ofExcept (mapM_ne_error ?_ totals)
  · cases monthBounds y m with
    | ok bounds =>
      intro never
      cases never
    | error fault => cases fault <;> simp [Except.mapError, Failure.ofMonth, Failure.withheld]
  · rintro ⟨service, total⟩
    refine bind_pure_ne_error ?_
    cases total with
    | real x =>
      -- What becomes of a number hangs on whether it has a whole part.
      conv_lhs => whnf
      cases Decimal.truncated? x.float <;> simp [Failure.withheld]
    | _ =>
      intro never
      cases never

theorem checkOrder_spares (totals : Totals) : checkOrder totals ≠ .error (.withheld year month) := by
  fun_induction checkOrder totals <;> simp_all [Failure.withheld]

end Report

namespace System
variable {τ : Type} [Add τ] [Sub τ] [LT τ] [DecidableLT τ] [Reach τ] {year month : Int}

theorem onShelf_spares (step : Shelf.Step τ) (other : ∀ shelf : Shelf τ, (shelf.step step).1 ≠ .error (.withheld year month)) :
    (onShelf step).Spares (.withheld year month) := by
  intro s
  obtain ⟨journal, taken⟩ := onShelf_eq s step
  rw [taken]
  exact other s.shelf

theorem isShelved_spares (key : String) : (isShelved key : SystemAct τ Bool).Spares (.withheld year month) := by
  refine .bind (onShelf_spares _ fun shelf => ?_) fun answer => ?_
  · change (if shelf.cache.tellsAges shelf.clock (some key) then _ else (Except.error Failure.outOfReach, [], shelf)).1 ≠ _
    split
    · intro never
      cases never
    · simp [Failure.withheld]
  · cases answer <;> exact .pure _

theorem generate_spares : (generate year month : SystemAct τ String).Spares (.withheld year month) := by
  unfold generate
  refine .bind (.onStore (Work.inUnit_spares Report.monthly_spares)) fun totals => ?_
  split
  · exact .throw (by simp [Failure.withheld])
  · refine .bind (.ofExcept (Report.checkOrder_spares totals)) fun _ => ?_
    refine .bind (onShelf_spares _ fun shelf => ?_) fun _ => ?_
    · exact nofun
    · exact .bind (.onStore fun s => nofun) fun _ => .pure _

/-- A report is withheld just as long as the clock that is asked does not show a later month. -/
theorem reportKey_withheld_iff {s : System τ} (at? : Option Reading) (known : isMonth month = true) :
    (reportKey year month at? s).1 = .error (.withheld year month) ↔ Report.isOver year month (at?.getD s.store.now) = false := by
  cases ended : Report.isOver year month (at?.getD s.store.now) with
  | false => simp [reportKey_of_not_isOver known ended, Failure.withheld]
  | true =>
    have spares : (isShelved (Report.key year month) >>= fun shelved =>
        if shelved then pure (Report.key year month) else generate year month : SystemAct τ String).Spares (.withheld year month) := by
      refine .bind (isShelved_spares _) fun shelved => ?_
      cases shelved
      · exact generate_spares
      · exact .pure _
    rw [reportKey_of_isOver known ended]
    simp [spares s]

/-- A report is withheld until the end of its month is no further off than the offset of the clock that is asked. On a clock of
universal time this is the end of the month, and on one that is behind it no instant of the month is left when the report can be
had; on one that is ahead the report can be had while the month goes on. -/
theorem reportKey_available (s : System τ) {year month : Int} (start : 1 ≤ year) (last : year ≤ 9998)
    (inYear : 1 ≤ month ∧ month ≤ 12) (now : Reading) (offset : Offset) (aware : now.offset = some offset) :
    ∃ first next, monthBounds year month = .ok (first, next) ∧ (∀ i : Instant, first ≤ i ∧ i < next ↔ i.InMonth year month) ∧
      ((reportKey year month (some now) s).1 = .error (.ledger (.reportNotAvailable year month)) ↔
        now.moment < next.micros - offset.micros) ∧
      (now.moment < next.micros - offset.micros → (reportKey year month (some now) s).2 = s) ∧
      (offset.micros = 0 →
        ((reportKey year month (some now) s).1 = .error (.ledger (.reportNotAvailable year month)) ↔ now.moment < next.micros)) ∧
      (offset.micros ≤ 0 → (reportKey year month (some now) s).1 ≠ .error (.ledger (.reportNotAvailable year month)) →
        ∀ i : Instant, now.moment ≤ i.micros → ¬ i.InMonth year month) := by
  have known : isMonth month = true := isMonth_iff.mpr inYear
  have room : year < 9999 ∨ year = 9999 ∧ month < 12 := .inl (by omega)
  obtain ⟨first, next, bounds, -, passes⟩ := monthBounds_reaches start known room
  obtain ⟨first', next', bounds', spans⟩ := monthBounds_spans start known room
  cases bounds.symm.trans bounds'
  have moment : now.moment = now.wall.micros - offset.micros := by
    unfold Reading.moment
    rw [aware]
    rfl
  have running : Report.isOver year month now = false ↔ now.moment < next.micros - offset.micros := by
    have wall : next ≤ now.wall ↔ next.micros ≤ now.wall.micros := Iff.rfl
    rw [Bool.eq_false_iff, Ne, Report.isOver_iff, ← passes, wall]
    omega
  have withheld : (reportKey year month (some now) s).1 = .error (.ledger (.reportNotAvailable year month)) ↔
      now.moment < next.micros - offset.micros :=
    (reportKey_withheld_iff (some now) known).trans running
  refine ⟨first, next, bounds, spans, withheld, fun early => ?_, fun universal => ?_, fun behind available i later inMonth => ?_⟩
  · have refused : reportKey year month (some now) s = (.error (.ledger (.reportNotAvailable year month)), s) :=
      reportKey_of_not_isOver known (running.mpr early)
    exact congrArg Prod.snd refused
  · rw [universal, Int.sub_zero] at withheld
    exact withheld
  · have early := mt withheld.mpr available
    have before : i.micros < next.micros := ((spans i).mpr inMonth).2
    omega

/-- Half an hour into June where clocks are three hours ahead, the report on May can be had, of which two and a half hours are left. -/
theorem reportKey_available_ahead :
    let _ : Reach Int := .everywhere Int
    let s : System Int := (Host.fresh .default).system
    let offset : Offset := ⟨10800000000, by decide⟩
    let now : Reading := ⟨⟨63821176200000000, by decide +kernel⟩, some offset⟩
    ((1 : Int) ≤ 2023 ∧ (2023 : Int) ≤ 9998 ∧ ((1 : Int) ≤ 5 ∧ (5 : Int) ≤ 12) ∧ now.offset = some offset) ∧
      ∃ first next, monthBounds 2023 5 = .ok (first, next) ∧ now.moment < next.micros ∧
        (reportKey 2023 5 (some now) s).1 ≠ .error (.ledger (.reportNotAvailable 2023 5)) := by
  intro _ s offset now
  obtain ⟨first, next, bounds, -, withheld, -⟩ :=
    reportKey_available s (by decide : (1 : Int) ≤ 2023) (by decide) (by decide : (1 : Int) ≤ 5 ∧ (5 : Int) ≤ 12) now offset rfl
  have may : monthBounds 2023 5 = .ok (⟨63818496000000000, by decide +kernel⟩, ⟨63821174400000000, by decide +kernel⟩) := by
    decide +kernel
  cases may.symm.trans bounds
  exact ⟨by decide, _, _, bounds, by decide, mt withheld.mp (by decide)⟩

end System
end Passbook
