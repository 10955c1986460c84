import Passbook.Migration.Migrator
import Passbook.Proofs.Bookkeeping

/-! Applying migrations whose statements succeed: each of them is recorded, and its changes stay. -/
namespace Passbook
open Journal Time

theorem AppliedRows.add_of_new {δ : Type} {c : Catalog δ} {row : AppliedRow} (kept : c.record = .kept)
    (fits : fitsInteger row.version = true) (name : Text.unencodable? .utf8 row.name = none)
    (sum : Text.unencodable? .utf8 row.checksum = none) (time : Text.unencodable? .utf8 row.appliedAt = none)
    (new : Rows.contains AppliedRow.version row.version c.applied = false) :
    AppliedRows.add row false c = .ok ((), { c with applied := Rows.insert AppliedRow.version row c.applied }) := by
  have bound : Argument.bindAll
      [.ofInt row.version, .ofText row.name, .ofText row.checksum, .ofText row.appliedAt] =
      .ok [.int row.version, .text row.name, .text row.checksum, .text row.appliedAt] := by
    simp [Argument.bindAll, Argument.bind, Argument.ofInt, Argument.ofText, fits, name, sum, time,
      List.zipIdx]
  simp [AppliedRows.add, AppliedRows.checkTable, kept, bound, new]

namespace Migrator
variable {σ δ : Type} [Runs σ δ] {c c' : Catalog δ}

/-- What statements make of a catalog, one after the other. -/
inductive Changes : List σ → Catalog δ → Catalog δ → Prop
  | done (c : Catalog δ) : Changes [] c c
  | next {statement : σ} {rest : List σ} {c c₁ c₂ : Catalog δ} (ran : Runs.run statement false c = .ok ((), c₁))
      (changes : Changes rest c₁ c₂) : Changes (statement :: rest) c c₂

theorem runAll_of_changes (m : Migration σ) {statements : List σ} (changes : Changes statements c c') {saved : Catalog δ}
    {s : Store (Catalog δ)} (busy : s.status = .busy saved false) (held : s.content = c) :
    runAll m statements s = (.ok (), { s with content := c' }) := by
  induction changes generalizing s with
  | done c =>
    subst held
    rfl
  | @next statement rest c c₁ c₂ ran changes ih =>
    have first := Work.execute_of_ok m.operation busy held ran
    exact (Act.bind_of_ok first).trans (ih busy rfl)

theorem tells (level : Level) (message : String) (content : Catalog δ) (status : Status (Catalog δ)) (now : Reading)
    (journal : List Record) :
    ∃ later, (tell level message : Work (Catalog δ) Unit) ⟨content, status, now, journal⟩ =
      (.ok (), ⟨content, status, now, later⟩) :=
  ⟨_, rfl⟩

variable [Worded σ]

/-- A migration can be applied at this time, and makes of `c` the catalog `c'`. -/
inductive Applies (m : Migration σ) (now : Reading) (c c' : Catalog δ) : Prop
  | mk {c₁ : Catalog δ} {sum : String} (changes : Changes m.up c c₁) (summed : m.checksum = .ok sum)
      (recorded : AppliedRows.add ⟨m.version, m.name, sum, now.text⟩ false c₁ = .ok ((), c'))

variable [Keyed δ]

theorem applyUnit_of_applies {m : Migration σ} {now : Reading} {journal : List Record}
    (applies : Applies m now c c') : applyUnit m ⟨c, .idle, now, journal⟩ = (.ok now, ⟨c', .idle, now, journal⟩) := by
  obtain ⟨changes, summed, recorded⟩ := applies
  rename_i c₁ sum
  have ran := runAll_of_changes (s := ⟨c, .busy c false, now, journal⟩) m changes rfl rfl
  have noted := Work.execute_of_ok (s := ⟨c₁, .busy c false, now, journal⟩) "record migration" rfl rfl recorded
  have clock :
      Work.clock (⟨c₁, .busy c false, now, journal⟩ : Store (Catalog δ)) = (.ok now, ⟨c₁, .busy c false, now, journal⟩) :=
    rfl
  have given : Act.ofExcept ((Except.ok sum : Except Text.Unencodable String).mapError Failure.unencodable)
      (⟨c₁, .busy c false, now, journal⟩ : Store (Catalog δ)) = (.ok sum, ⟨c₁, .busy c false, now, journal⟩) := rfl
  unfold applyUnit
  rw [Work.inUnit_eq rfl, Act.bind_of_ok ran, Act.bind_of_ok clock, summed, Act.bind_of_ok given, Act.bind_of_ok noted]
  rfl

theorem apply_of_applies {m : Migration σ} {now : Reading} (applies : Applies m now c c') (journal : List Record) :
    ∃ later, apply m ⟨c, .idle, now, journal⟩ = (.ok now, ⟨c', .idle, now, later⟩) := by
  obtain ⟨journal₁, told⟩ := tells Level.info ("Applying " ++ m.label) c .idle now journal
  have applied : (applyUnit m).outcome ⟨c, .idle, now, journal₁⟩ = (.ok (.ok now), ⟨c', .idle, now, journal₁⟩) := by
    unfold Act.outcome
    rw [applyUnit_of_applies applies]
  obtain ⟨journal₂, told'⟩ := tells Level.info ("Successfully applied " ++ m.label) c' .idle now journal₁
  refine ⟨journal₂, ?_⟩
  unfold apply
  rw [Act.bind_of_ok told, Act.bind_of_ok applied]
  dsimp only
  rw [Act.bind_of_ok told']
  rfl

inductive AppliesAll (now : Reading) : List (Planned σ) → Catalog δ → Catalog δ → Prop
  | done (c : Catalog δ) : AppliesAll now [] c c
  | next {p : Planned σ} {rest : List (Planned σ)} {c c₁ c₂ : Catalog δ} (applies : Applies p.migration now c c₁)
      (others : AppliesAll now rest c₁ c₂) : AppliesAll now (p :: rest) c c₂

theorem runEach_of_appliesAll {now : Reading} {planned : List (Planned σ)} {chosen : Migration σ → Bool}
    (applies : AppliesAll now planned c c') (all : ∀ p ∈ planned, chosen p.migration = true) (journal : List Record) :
    ∃ progress later, runEach chosen (fun m => some <$> apply m) planned ⟨c, .idle, now, journal⟩ =
      (.ok progress, ⟨c', .idle, now, later⟩) ∧ progress.failure = none := by
  induction applies generalizing journal with
  | done c => exact ⟨_, journal, rfl, rfl⟩
  | @next p rest c c₁ c₂ first others ih =>
    obtain ⟨journal₁, applied⟩ := apply_of_applies first journal
    have mapped : (some <$> apply p.migration : Work (Catalog δ) _).outcome ⟨c, .idle, now, journal⟩ =
        (.ok (.ok (some now)), ⟨c₁, .idle, now, journal₁⟩) := by
      have ran : (some <$> apply p.migration : Work (Catalog δ) _) ⟨c, .idle, now, journal⟩ =
          (.ok (some now), ⟨c₁, .idle, now, journal₁⟩) := Act.bind_of_ok applied
      unfold Act.outcome
      rw [ran]
    obtain ⟨progress, journal₂, went, fine⟩ := ih (fun p among => all p (List.mem_cons_of_mem _ among)) journal₁
    refine ⟨⟨{ p with appliedAt := some now } :: progress.planned, p.migration :: progress.completed, progress.failure⟩,
      journal₂, ?_, fine⟩
    unfold runEach
    rw [if_pos (all p (by simp)), Act.bind_of_ok mapped]
    dsimp only
    rw [Act.bind_of_ok went]
    rfl

theorem version_of_unmigrated {now : Reading} (unmigrated : c.applied = []) (kept : c.record = .kept) (journal : List Record) :
    (version : Work (Catalog δ) Int) ⟨c, .idle, now, journal⟩ = (.ok 0, ⟨c, .idle, now, journal⟩) := by
  have rows : AppliedRows.all false c = .ok ([], c) := by
    simp [AppliedRows.all, AppliedRows.checkTable, kept, unmigrated]
  have loaded : Work.inUnit (Work.execute "load applied migrations" AppliedRows.all) (⟨c, .idle, now, journal⟩ : Store (Catalog δ)) =
      (.ok [], ⟨c, .idle, now, journal⟩) := by
    rw [Work.inUnit_execute _ _ rfl]
    dsimp only
    rw [rows]
  have applied : (applied : Work (Catalog δ) _) ⟨c, .idle, now, journal⟩ = (.ok [], ⟨c, .idle, now, journal⟩) :=
    (Act.bind_of_ok loaded).trans rfl
  exact (Act.bind_of_ok applied).trans rfl

theorem up_of_appliesAll (m : Migrator σ) {now : Reading} (unmigrated : c.applied = []) (kept : c.record = .kept)
    (some_ : m.planned ≠ []) (all : ∀ p ∈ m.planned, isBetween 0 m.latest p.migration = true)
    (applies : AppliesAll now m.planned c c') (journal : List Record) :
    ∃ progress later, m.up none ⟨c, .idle, now, journal⟩ = (.ok progress, ⟨c', .idle, now, later⟩) ∧
      progress.failure = none := by
  have count : (m.migrations.filter (isBetween 0 m.latest)).length ≠ 0 := by
    intro none_
    rw [List.length_eq_zero_iff, List.filter_eq_nil_iff] at none_
    obtain ⟨p, among⟩ := List.exists_mem_of_ne_nil _ some_
    exact none_ p.migration (List.mem_map_of_mem among) (all p among)
  obtain ⟨journal₁, told⟩ := tells Level.info
    s!"Applying {(m.migrations.filter (isBetween 0 m.latest)).length} pending migrations" c .idle now journal
  obtain ⟨progress, journal₂, went, fine⟩ := runEach_of_appliesAll applies all journal₁
  obtain ⟨journal₃, told'⟩ := tells Level.info
    s!"Successfully applied {progress.completed.length} migrations" c' .idle now journal₂
  refine ⟨progress, journal₃, ?_, fine⟩
  unfold up
  rw [Act.bind_of_ok (version_of_unmigrated unmigrated kept journal)]
  dsimp only [Option.getD_none]
  rw [if_neg count, Act.bind_of_ok told, Act.bind_of_ok went, fine]
  exact (Act.bind_of_ok told').trans rfl

end Migrator

end Passbook
