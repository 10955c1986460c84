import Passbook.Proofs.Attempts

/-! A schema that is migrated up and down again and again, by calls that may fail at any statement. What is recorded is always a first
part of the migrations in their order, and the schema is what their statements make of the one it began with. So the highest recorded
version tells which of them are applied, and the next call goes on from there. -/
namespace Passbook
open Journal Time

section
variable {σ δ : Type}

/-- What statements make of a schema, one after the other; nothing if one of them has no effect. -/
def effects (effect : σ → δ → Option δ) (statements : List σ) (d : δ) : Option δ := statements.foldlM (fun d s => effect s d) d

theorem effects_append (effect : σ → δ → Option δ) (first second : List σ) (d : δ) :
    effects effect (first ++ second) d = (effects effect first d).bind (effects effect second) := List.foldlM_append

/-- A statement that is not refused has its effect on the schema and leaves the record of the migrations alone. Any of them may be
refused, for whatever reason. -/
def Runs.Follow (runs : Runs σ δ) (effect : σ → δ → Option δ) : Prop :=
  ∀ s deferred c c', runs.run s deferred c = .ok ((), c') → ∃ d, effect s c.schema = some d ∧ c' = { c with schema := d }

def Runs.Succeed (runs : Runs σ δ) (effect : σ → δ → Option δ) : Prop :=
  ∀ s deferred c d, effect s c.schema = some d → runs.run s deferred c = .ok ((), { c with schema := d })

namespace Migration

/-- The way back, if there is one, takes back what the migration did. -/
def Undoes (effect : σ → δ → Option δ) (m : Migration σ) : Prop :=
  ∀ back d d₁ d₂, m.down = some back → back ≠ [] → effects effect m.up d = some d₁ →
    effects effect back d₁ = some d₂ → d₂ = d

/-- A row records the migration, with its own name and checksum and a moment of universal time. -/
structure Records [Worded σ] (m : Migration σ) (row : AppliedRow) : Prop where
  version : row.version = m.version
  name : row.name = m.name
  checksum : m.checksum = .ok row.checksum
  time : ∃ time : Instant, row.appliedAt = (Reading.universal time).text

structure Recordable [Worded σ] (m : Migration σ) : Prop where
  version : fitsInteger m.version = true
  name : Text.unencodable? .utf8 m.name = none
  checksum : ∃ sum, m.checksum = .ok sum

end Migration

namespace AppliedRows
variable {c c' : Catalog δ}

theorem add_eq_ok {row : AppliedRow} (added : add row false c = .ok ((), c')) :
    c' = { c with applied := Rows.insert AppliedRow.version row c.applied } := by
  unfold add at added
  obtain ⟨_, _, added⟩ := bind_eq_ok.mp added
  obtain ⟨_, _, added⟩ := bind_eq_ok.mp added
  by_cases there : Rows.contains AppliedRow.version row.version c.applied = true
  · rw [if_pos there] at added
    cases added
  · rw [if_neg there] at added
    cases added
    rfl

theorem remove_eq_ok {version : Int} {count : Nat} (removed : remove version false c = .ok (count, c')) :
    c' = { c with applied := Rows.remove AppliedRow.version version c.applied } := by
  unfold remove at removed
  obtain ⟨_, _, removed⟩ := bind_eq_ok.mp removed
  obtain ⟨_, _, removed⟩ := bind_eq_ok.mp removed
  cases removed
  rfl

end AppliedRows

namespace Migrator

def latestOf (done : List (Migration σ)) : Int := (done.getLast?.map Migration.version).getD 0

/-- Just these migrations have been applied to a schema that was `empty` before. -/
structure Stacked [Worded σ] (effect : σ → δ → Option δ) (empty : δ) (done : List (Migration σ)) (c : Catalog δ) : Prop where
  kept : c.record = .kept
  rows : List.Forall₂ Migration.Records done c.applied
  built : effects effect (done.flatMap Migration.up) empty = some c.schema

def upTo (all : List (Migration σ)) (v : Int) : List (Migration σ) := all.filter fun m => m.version ≤ v

section
variable {all done rest : List (Migration σ)} {m : Migration σ}

theorem latestOf_snoc (done : List (Migration σ)) (m : Migration σ) : latestOf (done ++ [m]) = m.version := by
  simp [latestOf]

theorem version_le_latestOf (ascending : Rows.Ascending Migration.version done) (among : m ∈ done) : m.version ≤ latestOf done := by
  rcases List.eq_nil_or_concat done with rfl | ⟨init, last, rfl⟩
  · cases among
  · rw [List.concat_eq_append] at ascending among ⊢
    rw [latestOf_snoc]
    rcases List.mem_append.mp among with earlier | here
    · exact Int.le_of_lt ((List.pairwise_append.mp ascending).2.2 m earlier last (List.mem_singleton.mpr rfl))
    · rw [List.mem_singleton.mp here]

theorem latest_eq_latestOf {m : Migrator σ} (ascending : Rows.Ascending Migration.version m.migrations) :
    m.latest = latestOf m.migrations := by
  unfold latest
  rcases List.eq_nil_or_concat m.migrations with none_ | ⟨init, last, whole⟩
  · rw [none_]
    rfl
  · have highest : (m.migrations.map Migration.version).max? = some (latestOf m.migrations) := by
      refine List.max?_eq_some_iff.mpr ⟨?_, fun v among => ?_⟩
      · rw [whole, List.concat_eq_append, latestOf_snoc]
        simp
      · obtain ⟨known, listed, rfl⟩ := List.mem_map.mp among
        exact version_le_latestOf ascending listed
    rw [highest]
    rfl

theorem latestOf_lt (ascending : Rows.Ascending Migration.version (done ++ rest)) (positive : ∀ m ∈ done ++ rest, 0 < m.version)
    (among : m ∈ rest) : latestOf done < m.version := by
  rcases List.eq_nil_or_concat done with rfl | ⟨init, last, rfl⟩
  · exact positive m among
  · rw [List.concat_eq_append] at ascending ⊢
    rw [latestOf_snoc]
    exact (List.pairwise_append.mp ascending).2.2 last (by simp) m among

theorem upTo_latestOf (ascending : Rows.Ascending Migration.version (done ++ rest)) (positive : ∀ m ∈ done ++ rest, 0 < m.version) :
    upTo (done ++ rest) (latestOf done) = done := by
  have low : ∀ m ∈ done, decide (m.version ≤ latestOf done) = true := fun m among =>
    decide_eq_true (version_le_latestOf (List.pairwise_append.mp ascending).1 among)
  have high : ∀ m ∈ rest, ¬ decide (m.version ≤ latestOf done) = true := fun m among => by
    have := latestOf_lt ascending positive among
    simpa using this
  rw [upTo, List.filter_append, List.filter_eq_self.mpr low, List.filter_eq_nil_iff.mpr high, List.append_nil]

theorem filter_isBetween (ascending : Rows.Ascending Migration.version (done ++ rest)) (positive : ∀ m ∈ done ++ rest, 0 < m.version)
    (target : Int) : (done ++ rest).filter (isBetween (latestOf done) target) = rest.filter fun m => m.version ≤ target := by
  have low : ∀ m ∈ done, ¬ isBetween (latestOf done) target m = true := fun m among => by
    have := version_le_latestOf (List.pairwise_append.mp ascending).1 among
    simp only [isBetween, Bool.and_eq_true, decide_eq_true_eq]
    omega
  rw [List.filter_append, List.filter_eq_nil_iff.mpr low, List.nil_append]
  refine List.filter_congr fun m among => ?_
  have := latestOf_lt ascending positive among
  simp [isBetween, this]

theorem reverse_filter_isBetween (ascending : Rows.Ascending Migration.version (done ++ rest))
    (positive : ∀ m ∈ done ++ rest, 0 < m.version) (target : Int) :
    (done ++ rest).reverse.filter (isBetween target (latestOf done)) = (done.filter fun m => target < m.version).reverse := by
  have high : ∀ m ∈ rest, ¬ isBetween target (latestOf done) m = true := fun m among => by
    have := latestOf_lt ascending positive among
    simp only [isBetween, Bool.and_eq_true, decide_eq_true_eq]
    omega
  rw [List.filter_reverse, List.filter_append, List.filter_eq_nil_iff.mpr high, List.append_nil]
  congr 1
  refine List.filter_congr fun m among => ?_
  have := version_le_latestOf (List.pairwise_append.mp ascending).1 among
  simp [isBetween, this]

theorem migrations_ofList (migrations : List (Migration σ)) :
    (ofList migrations).migrations = migrations.mergeSort fun a b => a.version ≤ b.version := by
  unfold Migrator.migrations ofList
  rw [List.map_map]
  exact List.map_id' _

theorem mem_migrations_ofList {migrations : List (Migration σ)} : m ∈ (ofList migrations).migrations ↔ m ∈ migrations := by
  rw [migrations_ofList]
  exact List.mem_mergeSort

theorem ofList_ascending {migrations : List (Migration σ)} (distinct : (migrations.map Migration.version).Nodup) :
    Rows.Ascending Migration.version (ofList migrations).migrations := by
  have sorted : (migrations.mergeSort fun a b => a.version ≤ b.version).Pairwise fun a b => decide (a.version ≤ b.version) = true :=
    List.pairwise_mergeSort (fun a b c first second => by simp only [decide_eq_true_eq] at *; omega)
      (fun a b => by simp only [Bool.or_eq_true, decide_eq_true_eq]; omega) migrations
  have apart : (migrations.mergeSort fun a b => a.version ≤ b.version).Pairwise fun a b => a.version ≠ b.version :=
    List.pairwise_map.mp (((List.mergeSort_perm migrations _).map Migration.version).nodup_iff.mpr distinct)
  rw [migrations_ofList]
  refine (sorted.and apart).imp fun {a b} both => ?_
  have below : a.version ≤ b.version := by simpa using both.1
  omega

end

section
variable [Worded σ] {effect : σ → δ → Option δ} {empty : δ} {done : List (Migration σ)} {c c' : Catalog δ} {now : Reading}
  {time : Instant} {journal : List Record} {m : Migration σ} {rows : List AppliedRow}

omit [Worded σ] in
theorem forall₂_snoc {α β : Type} {r : α → β → Prop} {as : List α} {a : α} {bs : List β}
    (related : List.Forall₂ r (as ++ [a]) bs) :
    ∃ init b, bs = init ++ [b] ∧ List.Forall₂ r as init ∧ r a b := by
  have reversed := List.rel_reverse related
  rw [List.reverse_append, List.reverse_singleton, List.singleton_append] at reversed
  generalize turned : bs.reverse = back at reversed
  cases reversed with
  | @cons _ b _ init last others =>
    refine ⟨init.reverse, b, ?_, ?_, last⟩
    · rw [← List.reverse_reverse bs, turned, List.reverse_cons]
    · rw [← List.reverse_reverse as]
      exact List.rel_reverse others

theorem versions_of_records (records : List.Forall₂ Migration.Records done rows) :
    rows.map AppliedRow.version = done.map Migration.version := by
  induction records with
  | nil => rfl
  | cons first _ ih => rw [List.map_cons, List.map_cons, first.version, ih]

theorem version_lt_of_records (records : List.Forall₂ Migration.Records done rows) {v : Int} (below : ∀ m ∈ done, m.version < v) :
    ∀ row ∈ rows, row.version < v := by
  intro row among
  have listed : row.version ∈ done.map Migration.version := versions_of_records records ▸ List.mem_map_of_mem among
  obtain ⟨m, there, same⟩ := List.mem_map.mp listed
  exact same ▸ below m there

theorem records_push (records : List.Forall₂ Migration.Records done rows) (below : ∀ m' ∈ done, m'.version < m.version)
    {row : AppliedRow} (recorded : m.Records row) :
    Rows.insert AppliedRow.version row rows = rows ++ [row] ∧ List.Forall₂ Migration.Records (done ++ [m]) (rows ++ [row]) := by
  refine ⟨Rows.insert_of_above ?_, List.rel_append records (.cons recorded .nil)⟩
  rw [recorded.version]
  exact version_lt_of_records records below

theorem records_pop (records : List.Forall₂ Migration.Records (done ++ [m]) rows) (below : ∀ m' ∈ done, m'.version < m.version) :
    List.Forall₂ Migration.Records done (Rows.remove AppliedRow.version m.version rows) ∧
      ∃ row, rows = Rows.remove AppliedRow.version m.version rows ++ [row] := by
  obtain ⟨init, row, rfl, records, recorded⟩ := forall₂_snoc records
  have left : Rows.remove AppliedRow.version m.version (init ++ [row]) = init := by
    rw [← recorded.version]
    exact Rows.remove_last (version_lt_of_records records (recorded.version ▸ below))
  rw [left]
  exact ⟨records, row, rfl⟩

theorem Stacked.version_lt (stacked : Stacked effect empty done c) {v : Int} (below : ∀ m ∈ done, m.version < v) :
    ∀ row ∈ c.applied, row.version < v :=
  version_lt_of_records stacked.rows below

theorem readRows (records : List.Forall₂ Migration.Records done rows) :
    ∃ read, rows.mapM readRow = .ok read ∧
      List.Forall₂ (fun m a => a.version = m.version ∧ m.checksum = .ok a.checksum) done read := by
  induction records with
  | nil => exact ⟨[], rfl, .nil⟩
  | @cons m row _ _ first _ ih =>
    obtain ⟨time, written⟩ := first.time
    obtain ⟨read, told, shown⟩ := ih
    have here : readRow row = .ok ⟨row.version, row.name, row.checksum, time⟩ := by
      unfold readRow
      rw [written, Instant.ofText_text, ok_bind, Reading.instant_universal]
      rfl
    refine ⟨⟨row.version, row.name, row.checksum, time⟩ :: read, ?_, .cons ⟨first.version, first.checksum⟩ shown⟩
    rw [List.mapM_cons, here, told]
    rfl

section Reading
variable [Keyed δ]

theorem applied_of_stacked (stacked : Stacked effect empty done c) (now : Reading) (journal : List Record) :
    ∃ read, (applied : Work (Catalog δ) (List Applied)) ⟨c, .idle, now, journal⟩ = (.ok read, ⟨c, .idle, now, journal⟩) ∧
      List.Forall₂ (fun m a => a.version = m.version ∧ m.checksum = .ok a.checksum) done read := by
  obtain ⟨read, told, shown⟩ := readRows stacked.rows
  have rows : AppliedRows.all false c = .ok (c.applied, c) := by
    simp [AppliedRows.all, AppliedRows.checkTable, stacked.kept]
  have loaded : Work.inUnit (Work.execute "load applied migrations" AppliedRows.all) (⟨c, .idle, now, journal⟩ : Store (Catalog δ)) =
      (.ok c.applied, ⟨c, .idle, now, journal⟩) := by
    rw [Work.inUnit_execute _ _ rfl]
    dsimp only
    rw [rows]
  refine ⟨read, ?_, shown⟩
  unfold applied
  rw [Act.bind_of_ok loaded, told]
  rfl

theorem version_of_stacked (stacked : Stacked effect empty done c) (now : Reading) (journal : List Record) :
    (version : Work (Catalog δ) Int) ⟨c, .idle, now, journal⟩ = (.ok (latestOf done), ⟨c, .idle, now, journal⟩) := by
  obtain ⟨read, told, shown⟩ := applied_of_stacked stacked now journal
  have versions : read.map Applied.version = done.map Migration.version := by
    clear told stacked
    induction shown with
    | nil => rfl
    | cons first _ ih => rw [List.map_cons, List.map_cons, first.1, ih]
  have last : (read.getLast?.map Applied.version).getD 0 = latestOf done := by
    rw [latestOf, ← List.getLast?_map, ← List.getLast?_map, versions]
  unfold version
  rw [Act.bind_of_ok told, last]
  rfl

theorem validate_of_stacked {m : Migrator σ} (ascending : Rows.Ascending Migration.version m.migrations)
    (among : ∀ known ∈ done, known ∈ m.migrations) (stacked : Stacked effect empty done c)
    (now : Reading) (journal : List Record) :
    ((m.validate : Work (Catalog δ) Bool) ⟨c, .idle, now, journal⟩).1 = .ok true := by
  obtain ⟨read, told, shown⟩ := applied_of_stacked stacked now journal
  unfold validate
  rw [Act.bind_of_ok told]
  clear told stacked
  induction shown with
  | nil => rfl
  | @cons known row _ _ first _ ih =>
    have found : m.migrations.find? (fun known => known.version == row.version) = some known := by
      rw [first.1]
      exact Rows.find?_of_mem ascending (among known (by simp))
    have given : Act.ofExcept ((Except.ok row.checksum : Except Text.Unencodable String).mapError Failure.unencodable)
        (⟨c, .idle, now, journal⟩ : Store (Catalog δ)) = (.ok row.checksum, ⟨c, .idle, now, journal⟩) := rfl
    unfold validateRows
    rw [found]
    dsimp only
    rw [first.2, Act.bind_of_ok given, if_pos rfl]
    exact ih fun known there => among known (List.mem_cons_of_mem _ there)

end Reading

section Statements
variable [runs : Runs σ δ]

omit [Worded σ] in
theorem Changes.has_effects {statements : List σ} (follow : runs.Follow effect) (changes : Changes statements c c') :
    ∃ d, effects effect statements c.schema = some d ∧ c' = { c with schema := d } := by
  induction changes with
  | done c => exact ⟨c.schema, rfl, rfl⟩
  | @next statement rest c c₁ c₂ ran _ ih =>
    obtain ⟨d₁, came, rfl⟩ := follow _ _ _ _ ran
    obtain ⟨d₂, others, rfl⟩ := ih
    refine ⟨d₂, ?_, rfl⟩
    unfold effects at others ⊢
    rw [List.foldlM_cons, came]
    exact others

theorem Stacked.push (follow : runs.Follow effect) (stacked : Stacked effect empty done c) (below : ∀ m' ∈ done, m'.version < m.version)
    (applies : Applies m (.universal time) c c') :
    Stacked effect empty (done ++ [m]) c' ∧ ∃ row, c'.applied = c.applied ++ [row] := by
  obtain ⟨changes, summed, recorded⟩ := applies
  rename_i c₁ sum
  obtain ⟨d, came, rfl⟩ := changes.has_effects follow
  obtain rfl := AppliedRows.add_eq_ok recorded
  have recorded : m.Records ⟨m.version, m.name, sum, (Reading.universal time).text⟩ := ⟨rfl, rfl, summed, time, rfl⟩
  obtain ⟨last, records⟩ := records_push stacked.rows below recorded
  refine ⟨⟨stacked.kept, last ▸ records, ?_⟩, _, last⟩
  rw [List.flatMap_append, effects_append, stacked.built, List.flatMap_singleton]
  exact came

theorem Stacked.pop (follow : runs.Follow effect) (stacked : Stacked effect empty (done ++ [m]) c)
    (below : ∀ m' ∈ done, m'.version < m.version) {back : List σ} (isDown : m.down = some back) (some_ : back ≠ [])
    (undoes : m.Undoes effect) (reverts : Reverts m back c c') :
    Stacked effect empty done c' ∧ ∃ row, c.applied = c'.applied ++ [row] := by
  obtain ⟨changes, forgotten⟩ := reverts
  obtain ⟨d₂, back_, rfl⟩ := changes.has_effects follow
  obtain rfl := AppliedRows.remove_eq_ok forgotten
  obtain ⟨records, rows⟩ := records_pop stacked.rows below
  have built := stacked.built
  rw [List.flatMap_append, effects_append, List.flatMap_singleton, Option.bind_eq_some_iff] at built
  obtain ⟨d, before, came⟩ := built
  refine ⟨⟨stacked.kept, records, ?_⟩, rows⟩
  rw [undoes back d _ _ isDown some_ came back_]
  exact before

end Statements

end

/-- The migrations, in order and with distinct versions, of which just the first ones have been applied. -/
structure InOrder [Worded σ] (effect : σ → δ → Option δ) (empty : δ) (m : Migrator σ) (done : List (Migration σ))
    (c : Catalog δ) : Prop where
  ascending : Rows.Ascending Migration.version m.migrations
  positive : ∀ known ∈ m.migrations, 0 < known.version
  undone : ∀ known ∈ m.migrations, known.Undoes effect
  part : ∃ rest, m.migrations = done ++ rest
  stacked : Stacked effect empty done c

end Migrator

inductive Way where
  | up (target : Option Int)
  | down (target : Int)

namespace Way

/-- The migrations that a call has to take in turn when those up to `current` have been applied. -/
def due (m : Migrator σ) (current : Int) : Way → List (Migration σ)
  | .up target => m.migrations.filter (Migrator.isBetween current (target.getD m.latest))
  | .down target => m.migrations.reverse.filter (Migrator.isBetween target current)

/-- Upwards a list gets a new part at its end, downwards it loses one there, the last first. -/
def Moves {α : Type} (before part after : List α) : Way → Prop
  | .up _ => after = before ++ part
  | .down _ => before = after ++ part.reverse

theorem Moves.refl {α : Type} (way : Way) (list : List α) : way.Moves list [] list := by
  cases way <;> exact (List.append_nil list).symm

theorem Moves.trans {α : Type} {way : Way} {first second third part part' : List α} (before : way.Moves first part second)
    (behind : way.Moves second part' third) : way.Moves first (part ++ part') third := by
  cases way with
  | up target =>
    obtain rfl : second = first ++ part := before
    exact Eq.trans behind (List.append_assoc _ _ _)
  | down target =>
    obtain rfl : second = third ++ part'.reverse := behind
    refine Eq.trans before ?_
    rw [List.reverse_append, List.append_assoc]

section
variable [Worded σ] [Keyed δ] [Runs σ δ]

def act (p : Migration σ) : Way → Work (Catalog δ) (Option Reading)
  | .up _ => some <$> Migrator.apply p
  | .down _ => do
    Migrator.rollback p
    return none

def take (m : Migrator σ) : Way → Work (Catalog δ) (Progress σ)
  | .up target => m.up target
  | .down target => m.down target

end

/-- What a call comes to. It takes the migrations that are due in turn; if it fails, then at the first of those that are left, which it
names. The migrations that are applied and the rows that record them change by those that it has completed and by nothing else. -/
structure Came (way : Way) (m : Migrator σ) (v : Int) (c : Catalog δ) (progress : Progress σ) (v' : Int) (c' : Catalog δ) : Prop where
  planned : progress.planned.map Planned.migration = m.migrations
  taken : ∃ left, way.due m v = progress.completed ++ left ∧ Migrator.Stopped Migrator.Blames left progress.failure
  moved : way.Moves (Migrator.upTo m.migrations v) progress.completed (Migrator.upTo m.migrations v')
  rows : ∃ rows, way.Moves c.applied rows c'.applied

end Way

namespace Migrator

section
variable [Worded σ] {effect : σ → δ → Option δ} {empty : δ} {done done' rest : List (Migration σ)} {c c' : Catalog δ}
  {m : Migrator σ} {way : Way} (inOrder : InOrder effect empty m done c)

include inOrder

theorem InOrder.upTo_latestOf : upTo m.migrations (latestOf done) = done := by
  obtain ⟨rest, split⟩ := inOrder.part
  rw [split]
  exact Migrator.upTo_latestOf (split ▸ inOrder.ascending) (split ▸ inOrder.positive)

theorem InOrder.moved {planned : List (Planned σ)} (same : planned.map Planned.migration = m.migrations)
    (part : ∃ rest, m.migrations = done' ++ rest) (stacked : Stacked effect empty done' c') :
    InOrder effect empty { m with planned } done' c' := by
  have migrations : Migrator.migrations { m with planned } = m.migrations := same
  refine ⟨?_, ?_, ?_, ?_, stacked⟩ <;> rw [migrations]
  · exact inOrder.ascending
  · exact inOrder.positive
  · exact inOrder.undone
  · exact part

theorem InOrder.due_up (target : Option Int) : ∃ above, m.migrations = done ++ ((Way.up target).due m (latestOf done) ++ above) ∧
    ∀ known ∈ above, target.getD m.latest < known.version := by
  obtain ⟨rest, split⟩ := inOrder.part
  have ascending := split ▸ inOrder.ascending
  have due := filter_isBetween ascending (split ▸ inOrder.positive) (target.getD m.latest)
  rw [← split] at due
  refine ⟨rest.filter fun known => target.getD m.latest < known.version, ?_, fun known among => ?_⟩
  · rw [Way.due, due, ← Rows.Ascending.split (List.pairwise_append.mp ascending).2.1 (target.getD m.latest)]
    exact split
  · simpa using (List.mem_filter.mp among).2

theorem InOrder.left_of_up {left completed : List (Migration σ)} (moves : (Way.up none).Moves done completed done')
    (due : (Way.up none).due m (latestOf done) = completed ++ left) : m.migrations = done' ++ left := by
  obtain ⟨above, whole, high⟩ := inOrder.due_up none
  obtain rfl : done' = done ++ completed := moves
  have nothing : above = [] := by
    refine List.eq_nil_iff_forall_not_mem.mpr fun known among => ?_
    have listed : known ∈ m.migrations := by
      rw [whole]
      simp [among]
    have low := version_le_latestOf inOrder.ascending listed
    have highest : m.latest < known.version := high known among
    rw [latest_eq_latestOf inOrder.ascending] at highest
    omega
  rw [whole, due, nothing]
  simp only [List.append_assoc, List.append_nil]

theorem InOrder.due_down (target : Int) : ∃ low, done = low ++ ((Way.down target).due m (latestOf done)).reverse := by
  obtain ⟨rest, split⟩ := inOrder.part
  have ascending := split ▸ inOrder.ascending
  have due := reverse_filter_isBetween ascending (split ▸ inOrder.positive) target
  rw [← split] at due
  refine ⟨done.filter fun known => known.version ≤ target, ?_⟩
  rw [Way.due, due, List.reverse_reverse]
  exact Rows.Ascending.split (List.pairwise_append.mp ascending).1 target

theorem InOrder.part_of_moves {before left : List (Migration σ)} (due : way.due m (latestOf done) = before ++ left)
    (moves : way.Moves done before done') : ∃ rest, m.migrations = done' ++ rest := by
  cases way with
  | up target =>
    obtain ⟨above, whole, _⟩ := inOrder.due_up target
    obtain rfl : done' = done ++ before := moves
    refine ⟨left ++ above, ?_⟩
    rw [whole, due]
    simp only [List.append_assoc]
  | down target =>
    obtain ⟨rest, split⟩ := inOrder.part
    obtain rfl : done = done' ++ before.reverse := moves
    exact ⟨before.reverse ++ rest, split.trans (List.append_assoc _ _ _)⟩

end

section
variable [Worded σ] [Keyed δ] [runs : Runs σ δ] {effect : σ → δ → Option δ} {empty : δ} {done done' : List (Migration σ)}
  {c c' : Catalog δ} {time : Instant} {m : Migrator σ} {way : Way}

/-- One migration in its turn is applied behind all others, or rolled back as the last; or it fails and nothing has changed. -/
theorem act_tries (follow : runs.Follow effect) (inOrder : InOrder effect empty m done c) {before after : List (Migration σ)}
    {p : Migration σ} (due : way.due m (latestOf done) = before ++ p :: after) (moves : way.Moves done before done')
    (stacked : Stacked effect empty done' c') (journal : List Record) :
    Tries c' (.universal time)
      (fun _ c'' => (∃ done'', way.Moves done' [p] done'' ∧ Stacked effect empty done'' c'') ∧
        ∃ row, way.Moves c'.applied [row] c''.applied)
      (fun e => Blames p e ∧ ((∃ target, way = .up target) → ∀ c'', ¬ Applies p (.universal time) c' c''))
      (way.act p ⟨c', .idle, .universal time, journal⟩) := by
  cases way with
  | up target =>
    obtain ⟨above, whole, _⟩ := inOrder.due_up target
    obtain rfl : done' = done ++ before := moves
    have turn : m.migrations = (done ++ before) ++ p :: (after ++ above) := by
      rw [whole, due]
      simp only [List.append_assoc, List.cons_append]
    -- The versions ascend, so the row of `p` comes behind those that are there.
    have below : ∀ known ∈ done ++ before, known.version < p.version := fun known among =>
      (List.pairwise_append.mp (turn ▸ inOrder.ascending)).2.2 known among p (by simp)
    have tried : Tries c' (.universal time)
        (fun _ c'' => (∃ done'', done'' = done ++ before ++ [p] ∧ Stacked effect empty done'' c'') ∧
          ∃ row, c''.applied = c'.applied ++ [row])
        _ (apply p ⟨c', .idle, .universal time, journal⟩) :=
      (apply_tries p).mono fun _ c'' applies =>
        have ⟨stacked', row, isRow⟩ := stacked.push follow below applies
        ⟨⟨_, rfl, stacked'⟩, row, isRow⟩
    exact (tried.answer some).wider fun e blamed => ⟨blamed.1, fun _ => blamed.2⟩
  | down target =>
    obtain ⟨low, whole⟩ := inOrder.due_down target
    rw [due] at whole
    -- What has been rolled back stood behind `p`, so `p` is the last of what is left.
    have turn : done' = low ++ after.reverse ++ [p] := by
      have same : done' ++ before.reverse = low ++ after.reverse ++ [p] ++ before.reverse := by
        rw [← show done = done' ++ before.reverse from moves, whole]
        simp only [List.reverse_append, List.reverse_cons, List.append_assoc]
      exact List.append_cancel_right same
    obtain ⟨rest, split⟩ := inOrder.part_of_moves due moves
    have known : p ∈ m.migrations := by
      rw [split, turn]
      simp
    have below : ∀ known ∈ low ++ after.reverse, known.version < p.version := fun known among =>
      (List.pairwise_append.mp (turn ▸ (List.pairwise_append.mp (split ▸ inOrder.ascending)).1)).2.2 known among p (by simp)
    have tried : Tries c' (.universal time)
        (fun _ c'' => (∃ done'', done' = done'' ++ [p] ∧ Stacked effect empty done'' c'') ∧
          ∃ row, c'.applied = c''.applied ++ [row])
        _ (rollback p ⟨c', .idle, .universal time, journal⟩) :=
      (rollback_tries p).mono fun _ c'' reverted =>
        have ⟨back, some_, isDown, reverts⟩ := reverted
        have ⟨stacked', row, isRow⟩ := (turn ▸ stacked).pop follow below isDown some_ (inOrder.undone p known) reverts
        ⟨⟨_, turn, stacked'⟩, row, isRow⟩
    exact (tried.answer fun _ => none).wider fun e blamed => ⟨blamed, fun ⟨_, isUp⟩ => nomatch isUp⟩

/-- What holds when a call has completed some migrations: just those before them have been applied too, or have been left. -/
def Reached (effect : σ → δ → Option δ) (empty : δ) (way : Way) (done : List (Migration σ)) (c : Catalog δ)
    (completed : List (Migration σ)) (c' : Catalog δ) : Prop :=
  (∃ done', way.Moves done completed done' ∧ Stacked effect empty done' c') ∧ ∃ rows, way.Moves c.applied rows c'.applied

/-- Why a call stopped before a migration: it is named, and upwards it could not have been applied. -/
def Blocks (way : Way) (time : Instant) (c : Catalog δ) (p : Migration σ) (e : Failure) : Prop :=
  Blames p e ∧ ((∃ target, way = .up target) → ∀ c', ¬ Applies p (.universal time) c c')

omit [Keyed δ] runs in
theorem InOrder.reached_nil (inOrder : InOrder effect empty m done c) (way : Way) : Reached effect empty way done c [] c :=
  ⟨⟨done, .refl way done, inOrder.stacked⟩, [], .refl way c.applied⟩

variable (way) in
theorem runEach_act_takes (follow : runs.Follow effect) (inOrder : InOrder effect empty m done c) {chosen : Migration σ → Bool}
    {planned : List (Planned σ)} (listed : (planned.map Planned.migration).filter chosen = way.due m (latestOf done)) :
    Takes (.universal time) (Reached effect empty way done c) (Blocks way time) (planned.map Planned.migration)
      (way.due m (latestOf done)) c (runEach chosen way.act planned) := by
  rw [← listed]
  refine runEach_takes ?_ planned rfl (inOrder.reached_nil way)
  rintro before p after due c₁ journal ⟨⟨done₁, moves, stacked⟩, rows, moved⟩
  refine (act_tries follow inOrder (listed.symm.trans due) moves stacked journal).mono fun _ c₂ came => ?_
  obtain ⟨⟨done₂, moves', stacked'⟩, row, moved'⟩ := came
  exact ⟨⟨done₂, moves.trans moves', stacked'⟩, rows ++ [row], moved.trans moved'⟩

omit [Keyed δ] in
theorem InOrder.came (inOrder : InOrder effect empty m done c) {progress : Progress σ} {left : List (Migration σ)}
    (comes : Comes (Reached effect empty way done c) (Blocks way time) m.migrations (way.due m (latestOf done)) progress left c') :
    ∃ done', InOrder effect empty { m with planned := progress.planned } done' c' ∧ way.Moves done progress.completed done' ∧
      way.Came m (latestOf done) c progress (latestOf done') c' := by
  obtain ⟨⟨⟨done', moves, stacked⟩, rows⟩, planned, due, stopped⟩ := comes
  have inOrder' := inOrder.moved planned (inOrder.part_of_moves due moves) stacked
  have upTo_ := inOrder'.upTo_latestOf
  rw [show Migrator.migrations { m with planned := progress.planned } = m.migrations from planned] at upTo_
  refine ⟨done', inOrder', moves, planned, ⟨left, due, stopped.mono fun _ _ => And.left⟩, ?_, rows⟩
  rw [inOrder.upTo_latestOf, upTo_]
  exact moves

omit [Worded σ] [Keyed δ] runs in
theorem tells_success (progress answer : Progress σ) (message : String) (c : Catalog δ) (now : Reading) (journal : List Record) :
    ∃ later, (do
        if progress.failure.isNone then
          tell Level.info message
        return answer : Work (Catalog δ) (Progress σ)) ⟨c, .idle, now, journal⟩ = (.ok answer, ⟨c, .idle, now, later⟩) := by
  by_cases fine : progress.failure.isNone = true
  · obtain ⟨later, said⟩ := tells Level.info message c .idle now journal
    refine ⟨later, ?_⟩
    rw [if_pos fine]
    exact Act.bind_of_ok said
  · refine ⟨journal, ?_⟩
    rw [if_neg fine]
    rfl

section
variable {held : List (Migration σ) → Catalog δ → Prop} {blame : Catalog δ → Migration σ → Failure → Prop} {now : Reading}
  {v : Int}

theorem up_takes_of {target : Option Int}
    (told : ∀ journal, (version : Work (Catalog δ) Int) ⟨c, .idle, now, journal⟩ = (.ok v, ⟨c, .idle, now, journal⟩))
    (start : held [] c) (each : Takes now held blame m.migrations ((Way.up target).due m v) c
      (runEach (isBetween v (target.getD m.latest)) (Way.up target).act m.planned)) :
    Takes now held blame m.migrations ((Way.up target).due m v) c (m.up target) := by
  intro journal
  unfold up
  rw [Act.bind_of_ok (told journal)]
  dsimp only
  by_cases nothing : (m.migrations.filter (isBetween v (target.getD m.latest))).length = 0
  · obtain ⟨later, said⟩ := tells Level.info "No pending migrations to apply" c .idle now journal
    rw [if_pos nothing, Act.bind_of_ok said]
    exact ⟨_, c, later, [], rfl, start, rfl, List.length_eq_zero_iff.mp nothing, .ended⟩
  · obtain ⟨journal₁, said⟩ := tells Level.info
      s!"Applying {(m.migrations.filter (isBetween v (target.getD m.latest))).length} pending migrations" c .idle now journal
    obtain ⟨progress, c', journal₂, left, went, comes⟩ := each journal₁
    obtain ⟨later, said'⟩ :=
      tells_success progress progress s!"Successfully applied {progress.completed.length} migrations" c' now journal₂
    refine ⟨progress, c', later, left, ?_, comes⟩
    rw [if_neg nothing, Act.bind_of_ok said]
    exact (Act.bind_of_ok went).trans said'

theorem down_takes_of {target : Int}
    (told : ∀ journal, (version : Work (Catalog δ) Int) ⟨c, .idle, now, journal⟩ = (.ok v, ⟨c, .idle, now, journal⟩))
    (start : held [] c) (each : Takes now held blame m.migrations.reverse ((Way.down target).due m v) c
      (runEach (isBetween target v) (Way.down target).act m.planned.reverse)) :
    Takes now held blame m.migrations ((Way.down target).due m v) c (m.down target) := by
  intro journal
  unfold down
  rw [Act.bind_of_ok (told journal)]
  dsimp only
  by_cases low : v ≤ target
  · obtain ⟨later, said⟩ := tells Level.info "Target version is not lower than current version" c .idle now journal
    have nothing : (Way.down target).due m v = [] := by
      refine List.filter_eq_nil_iff.mpr fun p _ => ?_
      simp only [isBetween, Bool.and_eq_true, decide_eq_true_eq]
      omega
    rw [if_pos low, Act.bind_of_ok said]
    exact ⟨_, c, later, [], rfl, start, rfl, nothing, .ended⟩
  · obtain ⟨journal₁, said⟩ := tells Level.info
      s!"Rolling back {(m.migrations.filter (isBetween target v)).length} migrations" c .idle now journal
    obtain ⟨progress, c', journal₂, left, went, comes⟩ := each journal₁
    obtain ⟨later, said'⟩ := tells_success progress { progress with planned := progress.planned.reverse }
      s!"Successfully rolled back {progress.completed.length} migrations" c' now journal₂
    refine ⟨{ progress with planned := progress.planned.reverse }, c', later, left, ?_, { comes with planned := ?_ }⟩
    · rw [if_neg low, Act.bind_of_ok said]
      exact (Act.bind_of_ok went).trans said'
    · rw [List.map_reverse, comes.planned, List.reverse_reverse]

end

theorem up_takes (follow : runs.Follow effect) (inOrder : InOrder effect empty m done c) (target : Option Int) :
    Takes (.universal time) (Reached effect empty (.up target) done c) (Blocks (.up target) time) m.migrations
      ((Way.up target).due m (latestOf done)) c (m.up target) :=
  up_takes_of (version_of_stacked inOrder.stacked (.universal time)) (inOrder.reached_nil _)
    (runEach_act_takes (.up target) follow inOrder rfl)

theorem down_takes (follow : runs.Follow effect) (inOrder : InOrder effect empty m done c) (target : Int) :
    Takes (.universal time) (Reached effect empty (.down target) done c) (Blocks (.down target) time) m.migrations
      ((Way.down target).due m (latestOf done)) c (m.down target) := by
  have turned : m.planned.reverse.map Planned.migration = m.migrations.reverse := List.map_reverse
  have listed : (m.planned.reverse.map Planned.migration).filter (isBetween target (latestOf done)) =
      (Way.down target).due m (latestOf done) := by
    rw [turned]
    rfl
  exact down_takes_of (version_of_stacked inOrder.stacked (.universal time)) (inOrder.reached_nil _)
    (turned ▸ runEach_act_takes (.down target) follow inOrder listed)

/-- A call answers in any case, and what it comes to is in order again. -/
theorem take_comes (follow : runs.Follow effect) (inOrder : InOrder effect empty m done c) (way : Way) (journal : List Record) :
    ∃ progress c' later left done',
      way.take m ⟨c, .idle, .universal time, journal⟩ = (.ok progress, ⟨c', .idle, .universal time, later⟩) ∧
      InOrder effect empty { m with planned := progress.planned } done' c' ∧ way.Moves done progress.completed done' ∧
      way.Came m (latestOf done) c progress (latestOf done') c' ∧
      way.due m (latestOf done) = progress.completed ++ left ∧ Stopped (Blocks way time c') left progress.failure := by
  have takes : Takes (.universal time) (Reached effect empty way done c) (Blocks way time) m.migrations (way.due m (latestOf done)) c
      (way.take m) := by
    cases way with
    | up target => exact up_takes follow inOrder target
    | down target => exact down_takes follow inOrder target
  obtain ⟨progress, c', later, left, went, comes⟩ := takes journal
  obtain ⟨done', inOrder', moves, came⟩ := inOrder.came comes
  exact ⟨progress, c', later, left, done', went, inOrder', moves, came, comes.due, comes.stopped⟩

end

end Migrator
end
end Passbook
