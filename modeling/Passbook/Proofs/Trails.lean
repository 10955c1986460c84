import Passbook.Proofs.Fresh
import Passbook.Proofs.Upkeep

/-! Calls that migrate a schema, one after the other. Whatever fails in them, the schema, the record and the version that is told agree
after each, no migration is applied twice unless it was rolled back in between, and a call whose statements all succeed makes up for
what was left. -/
namespace Passbook
open Journal Time

inductive Trail.Deed (σ : Type) where
  | applied (m : Migration σ)
  | rolledBack (m : Migration σ)

structure Attempt (σ δ : Type) where
  way : Way
  runs : Runs σ δ
  time : Instant

/-- A migrator with its store, and all that it has done so far. -/
structure Trail (σ δ : Type) where
  migrator : Migrator σ
  store : Store (Catalog δ)
  deeds : List (Trail.Deed σ)

section
variable {σ δ : Type}

def Way.deed : Way → Migration σ → Trail.Deed σ
  | .up _ => .applied
  | .down _ => .rolledBack

namespace Trail.Deed

/-- Deeds that lead from some applied migrations to others: one that is applied was not, and one that is rolled back was the last. -/
inductive Carry : List (Migration σ) → List (Deed σ) → List (Migration σ) → Prop
  | none (done) : Carry done [] done
  | applied {done deeds done' m} (new : m ∉ done) (rest : Carry (done ++ [m]) deeds done') : Carry done (.applied m :: deeds) done'
  | rolledBack {done deeds done' m} (rest : Carry done deeds done') : Carry (done ++ [m]) (.rolledBack m :: deeds) done'

variable {done done' done'' : List (Migration σ)} {deeds deeds' : List (Deed σ)} {m : Migration σ}

theorem Carry.trans (first : Carry done deeds done') (second : Carry done' deeds' done'') : Carry done (deeds ++ deeds') done'' := by
  induction first with
  | none done => exact second
  | applied new _ ih => exact .applied new (ih second)
  | rolledBack _ ih => exact .rolledBack (ih second)

theorem carry_up {completed : List (Migration σ)} (distinct : (done ++ completed).Nodup) :
    Carry done (completed.map .applied) (done ++ completed) := by
  induction completed generalizing done with
  | nil =>
    rw [List.append_nil]
    exact .none done
  | cons m rest ih =>
    rw [List.append_cons] at distinct ⊢
    refine .applied (fun among => ?_) (ih distinct)
    exact (List.nodup_append.mp (List.nodup_append.mp distinct).1).2.2 m among m (List.mem_singleton.mpr rfl) rfl

theorem carry_down (completed : List (Migration σ)) : Carry (done ++ completed.reverse) (completed.map .rolledBack) done := by
  induction completed with
  | nil =>
    rw [List.reverse_nil, List.append_nil]
    exact .none done
  | cons m rest ih =>
    rw [List.reverse_cons, ← List.append_assoc]
    exact .rolledBack ih

theorem carry_of_moves {way : Way} {completed : List (Migration σ)} (moves : way.Moves done completed done') (distinct : done'.Nodup) :
    Carry done (completed.map way.deed) done' := by
  cases way with
  | up target =>
    obtain rfl : done' = done ++ completed := moves
    exact carry_up distinct
  | down target =>
    obtain rfl : done = done' ++ completed.reverse := moves
    exact carry_down completed

theorem Carry.behind {before after : List (Deed σ)} (carry : Carry done deeds done') (split : deeds = before ++ after) :
    ∃ middle, Carry middle after done' := by
  induction before generalizing done deeds with
  | nil =>
    subst split
    exact ⟨done, carry⟩
  | cons deed before ih =>
    subst split
    cases carry with
    | applied _ rest => exact ih rest rfl
    | rolledBack rest => exact ih rest rfl

theorem Carry.rolledBack_of_applied {between after : List (Deed σ)} (carry : Carry done deeds done') (among : m ∈ done)
    (split : deeds = between ++ .applied m :: after) : .rolledBack m ∈ between := by
  -- The next deed either is the one sought or leaves `m` applied.
  induction carry generalizing between with
  | none done => exact absurd split.symm (List.append_ne_nil_of_right_ne_nil between (List.cons_ne_nil _ _))
  | @applied done deeds done' m' new rest ih =>
    cases between with
    | nil =>
      cases split
      exact absurd among new
    | cons deed between =>
      obtain ⟨_, others⟩ := List.cons.inj split
      exact List.mem_cons_of_mem _ (ih (List.mem_append_left _ among) others)
  | @rolledBack done deeds done' m' rest ih =>
    cases between with
    | nil => cases split
    | cons deed between =>
      obtain ⟨rfl, others⟩ := List.cons.inj split
      rcases List.mem_append.mp among with earlier | last
      · exact List.mem_cons_of_mem _ (ih earlier others)
      · exact List.mem_cons.mpr (.inl (congrArg Deed.rolledBack (List.mem_singleton.mp last)))

/-- Between two times that a migration is applied it is rolled back. -/
def NeverTwice (deeds : List (Deed σ)) : Prop :=
  ∀ before between after m, deeds = before ++ .applied m :: (between ++ .applied m :: after) → .rolledBack m ∈ between

theorem Carry.neverTwice (carry : Carry done deeds done') : NeverTwice deeds := by
  intro before between after m split
  obtain ⟨middle, rest⟩ := carry.behind split
  cases rest with
  | applied _ rest => exact rest.rolledBack_of_applied (List.mem_append_right _ (List.mem_singleton.mpr rfl)) rfl

end Trail.Deed

variable [Worded σ] [Keyed δ]

def Attempt.work (a : Attempt σ δ) (m : Migrator σ) : Work (Catalog δ) (Progress σ) :=
  letI := a.runs
  do
    Work.setClock (.universal a.time)
    a.way.take m

/-- Makes a call; what it completes is done, also if it fails behind that. -/
def Attempt.make (a : Attempt σ δ) (t : Trail σ δ) : Trail σ δ :=
  match a.work t.migrator t.store with
  | (.ok progress, store) => ⟨{ t.migrator with planned := progress.planned }, store, t.deeds ++ progress.completed.map a.way.deed⟩
  | (.error _, store) => { t with store }

namespace Trail

def start (migrations : List (Migration σ)) (empty : δ) (now : Reading) (journal : List Record) : Trail σ δ :=
  ⟨.ofList migrations, ⟨⟨empty, [], .kept⟩, .idle, now, journal⟩, []⟩

def makeAll (attempts : List (Attempt σ δ)) (t : Trail σ δ) : Trail σ δ := attempts.foldl (fun t a => a.make t) t

/-- Everything agrees with the version that is told: the rows record just the defined migrations up to it, each with its own name and
checksum, the schema is what their statements make of the one it began with, and they are found valid. -/
structure Stands (effect : σ → δ → Option δ) (empty : δ) (all : List (Migration σ)) (t : Trail σ δ) (v : Int) : Prop where
  migrations : t.migrator.migrations = all
  idle : t.store.status = .idle
  version : Migrator.version t.store = (.ok v, t.store)
  rows : List.Forall₂ Migration.Records (Migrator.upTo all v) t.store.content.applied
  schema : effects effect ((Migrator.upTo all v).flatMap Migration.up) empty = some t.store.content.schema
  valid : (t.migrator.validate t.store).1 = .ok true

structure InOrder (effect : σ → δ → Option δ) (empty : δ) (all done : List (Migration σ)) (t : Trail σ δ) : Prop where
  migrations : t.migrator.migrations = all
  idle : t.store.status = .idle
  ordered : Migrator.InOrder effect empty t.migrator done t.store.content
  deeds : Deed.Carry [] t.deeds done

variable {effect : σ → δ → Option δ} {empty : δ} {all done : List (Migration σ)} {t : Trail σ δ} {a : Attempt σ δ}

omit [Worded σ] [Keyed δ] in
theorem store_of_idle (idle : t.store.status = .idle) : t.store = ⟨t.store.content, .idle, t.store.now, t.store.journal⟩ := by
  rw [← idle]

theorem InOrder.stands (inOrder : t.InOrder effect empty all done) : t.Stands effect empty all (Migrator.latestOf done) := by
  obtain ⟨migrations, idle, ordered, _⟩ := inOrder
  have upTo_ := ordered.upTo_latestOf
  obtain ⟨rest, split⟩ := ordered.part
  rw [migrations] at upTo_
  have told := Migrator.version_of_stacked ordered.stacked t.store.now t.store.journal
  have valid := Migrator.validate_of_stacked ordered.ascending (fun known among => split ▸ List.mem_append_left rest among)
    ordered.stacked t.store.now t.store.journal
  rw [← store_of_idle idle] at told valid
  refine ⟨migrations, idle, told, ?_, ?_, valid⟩ <;> rw [upTo_]
  · exact ordered.stacked.rows
  · exact ordered.stacked.built

theorem InOrder.make (inOrder : t.InOrder effect empty all done) (follow : a.runs.Follow effect) :
    letI := a.runs
    ∃ progress done' left, a.work t.migrator t.store = (.ok progress, (a.make t).store) ∧ (a.make t).InOrder effect empty all done' ∧
      a.way.Moves done progress.completed done' ∧
      a.way.Came t.migrator (Migrator.latestOf done) t.store.content progress (Migrator.latestOf done') (a.make t).store.content ∧
      a.way.due t.migrator (Migrator.latestOf done) = progress.completed ++ left ∧
      Migrator.Stopped (Migrator.Blocks a.way a.time (a.make t).store.content) left progress.failure := by
  let _ := a.runs
  obtain ⟨migrations, idle, ordered, deeds⟩ := inOrder
  obtain ⟨progress, c', later, left, done', went, ordered', moves, came, due, stopped⟩ :=
    Migrator.take_comes follow ordered a.way t.store.journal
  have set : (Work.setClock (.universal a.time) : Work (Catalog δ) Unit) t.store =
      (.ok (), ⟨t.store.content, .idle, .universal a.time, t.store.journal⟩) := by
    rw [store_of_idle idle]
    rfl
  have worked : a.work t.migrator t.store = (.ok progress, ⟨c', .idle, .universal a.time, later⟩) := by
    unfold Attempt.work
    exact (Act.bind_of_ok set).trans went
  have made : a.make t = ⟨{ t.migrator with planned := progress.planned }, ⟨c', .idle, .universal a.time, later⟩,
      t.deeds ++ progress.completed.map a.way.deed⟩ := by
    unfold Attempt.make
    rw [worked]
  have distinct : done'.Nodup := by
    obtain ⟨rest, split⟩ := ordered'.part
    have versions := Rows.Ascending.nodup (split ▸ ordered'.ascending)
    exact (List.nodup_append.mp (versions.of_map Migration.version)).1
  rw [made]
  refine ⟨progress, done', left, worked, ⟨came.planned.trans migrations, rfl, ordered', ?_⟩, moves, came, due, stopped⟩
  exact deeds.trans (Deed.carry_of_moves moves distinct)

theorem InOrder.makeAll (inOrder : t.InOrder effect empty all done) (attempts : List (Attempt σ δ))
    (follow : ∀ a ∈ attempts, a.runs.Follow effect) : ∃ done', (makeAll attempts t).InOrder effect empty all done' := by
  induction attempts generalizing t done with
  | nil => exact ⟨done, inOrder⟩
  | cons a rest ih =>
    obtain ⟨_, done', _, _, inOrder', _⟩ := inOrder.make (follow a (by simp))
    exact ih inOrder' fun a among => follow a (List.mem_cons_of_mem _ among)

end Trail

namespace Migrator
variable [runs : Runs σ δ] {effect : σ → δ → Option δ} {empty : δ} {done rest : List (Migration σ)} {c : Catalog δ}
  {p : Migration σ}

omit [Worded σ] [Keyed δ] in
theorem Changes.of_effects (succeed : runs.Succeed effect) {statements : List σ} {d : δ}
    (able : effects effect statements c.schema = some d) :
    Changes statements c { c with schema := d } := by
  induction statements generalizing c with
  | nil =>
    cases able
    exact .done c
  | cons statement rest ih =>
    unfold effects at able
    obtain ⟨d₁, came, others⟩ := Option.bind_eq_some_iff.mp able
    exact .next (succeed statement false c d₁ came) (ih others)

omit [Keyed δ] runs in
theorem encodable_of_checksum {sum : String} (summed : p.checksum = .ok sum) : Text.unencodable? .utf8 sum = none := by
  unfold Migration.checksum at summed
  dsimp only at summed
  split at summed
  · cases summed
  · cases summed
    exact (Digest.md5_plain _).encodable

omit [Keyed δ] in
theorem applies_next (succeed : runs.Succeed effect) (stacked : Stacked effect empty done c)
    (below : ∀ known ∈ done, known.version < p.version) (recordable : p.Recordable)
    (able : (effects effect ((done ++ p :: rest).flatMap Migration.up) empty).isSome) (time : Instant) :
    ∃ c', Applies p (.universal time) c c' := by
  obtain ⟨sum, summed⟩ := recordable.checksum
  obtain ⟨d, came⟩ : ∃ d, effects effect p.up c.schema = some d := by
    rw [List.flatMap_append, effects_append, stacked.built, List.flatMap_cons, Option.bind_some, effects_append] at able
    exact Option.isSome_iff_exists.mp (Option.isSome_of_isSome_bind able)
  have new : Rows.contains AppliedRow.version p.version c.applied = false := by
    refine List.any_eq_false.mpr fun row among => ?_
    have := stacked.version_lt below row among
    simpa using Int.ne_of_lt this
  exact ⟨_, .mk (Changes.of_effects succeed came) summed (AppliedRows.add_of_new stacked.kept recordable.version recordable.name
    (encodable_of_checksum summed) (Reading.text_plain _).encodable new)⟩

end Migrator

namespace Trail
variable {effect : σ → δ → Option δ} {empty : δ} {all done : List (Migration σ)} {t : Trail σ δ} {a : Attempt σ δ}
  {progress : Progress σ}

theorem InOrder.make_up (inOrder : t.InOrder effect empty all done) (follow : a.runs.Follow effect) (isUp : a.way = .up none)
    (answered : (a.work t.migrator t.store).1 = .ok progress) :
    letI := a.runs
    ∃ done' left, (a.make t).InOrder effect empty all done' ∧ all = done' ++ left ∧
      Migrator.Stopped (Migrator.Blocks a.way a.time (a.make t).store.content) left progress.failure := by
  obtain ⟨progress', done', left, worked, inOrder', moves, _, due, stopped⟩ := inOrder.make follow
  rw [worked] at answered
  cases answered
  rw [isUp] at moves due
  exact ⟨done', left, inOrder', inOrder.migrations ▸ inOrder.ordered.left_of_up moves due, stopped⟩

theorem InOrder.catches_up (inOrder : t.InOrder effect empty all done) (follow : a.runs.Follow effect) (isUp : a.way = .up none)
    (answered : (a.work t.migrator t.store).1 = .ok progress) (fine : progress.failure = none) :
    (a.make t).InOrder effect empty all all := by
  obtain ⟨done', left, inOrder', whole, stopped⟩ := inOrder.make_up follow isUp answered
  rw [fine] at stopped
  cases stopped
  rw [List.append_nil] at whole
  exact whole ▸ inOrder'

theorem InOrder.unfailed (inOrder : t.InOrder effect empty all done) (follow : a.runs.Follow effect) (isUp : a.way = .up none)
    (succeed : a.runs.Succeed effect) (recordable : ∀ m ∈ all, m.Recordable)
    (able : (effects effect (all.flatMap Migration.up) empty).isSome)
    (answered : (a.work t.migrator t.store).1 = .ok progress) : progress.failure = none := by
  let _ := a.runs
  obtain ⟨done', left, inOrder', whole, stopped⟩ := inOrder.make_up follow isUp answered
  cases failed : progress.failure with
  | none => rfl
  | some e =>
    rw [failed] at stopped
    cases stopped with
    | @failed p rest _ blocked =>
      have ascending := inOrder'.migrations ▸ inOrder'.ordered.ascending
      have below : ∀ known ∈ done', known.version < p.version := fun known among =>
        (List.pairwise_append.mp (whole ▸ ascending)).2.2 known among p (by simp)
      obtain ⟨c', applies⟩ := Migrator.applies_next succeed inOrder'.ordered.stacked below (recordable p (whole ▸ by simp))
        (whole ▸ able) a.time
      exact absurd applies (blocked.2 ⟨none, isUp⟩ c')

omit [Keyed δ] in
theorem start_inOrder {migrations : List (Migration σ)} (distinct : (migrations.map Migration.version).Nodup)
    (positive : ∀ m ∈ migrations, 0 < m.version) (undone : ∀ m ∈ migrations, m.Undoes effect) (empty : δ) (now : Reading)
    (journal : List Record) :
    (start migrations empty now journal).InOrder effect empty (Migrator.ofList migrations).migrations [] where
  migrations := rfl
  idle := rfl
  ordered := {
    ascending := Migrator.ofList_ascending distinct
    positive := fun m among => positive m (Migrator.mem_migrations_ofList.mp among)
    undone := fun m among => undone m (Migrator.mem_migrations_ofList.mp among)
    part := ⟨_, rfl⟩
    stacked := ⟨rfl, .nil, rfl⟩ }
  deeds := .none []

/-- Migrations with distinct positive versions, of which any statement may be refused at any call, are kept in order by every run of
calls. After each the version that is told, the rows, the schema and the checksums agree, and no migration has been applied twice unless
it was rolled back in between. A further call takes what is due in turn up to the first that fails, which changes nothing. If it goes up
without a target and no statement fails, it fails nowhere; and then it ends where such a call ends that is the first of all. -/
theorem attempts_stand (migrations : List (Migration σ)) (distinct : (migrations.map Migration.version).Nodup)
    (positive : ∀ m ∈ migrations, 0 < m.version) (undone : ∀ m ∈ migrations, m.Undoes effect) (empty : δ) (now : Reading)
    (journal : List Record) (attempts : List (Attempt σ δ)) (follow : ∀ a ∈ attempts, a.runs.Follow effect) :
    let all := (Migrator.ofList migrations).migrations
    let first := start migrations empty now journal
    let t := makeAll attempts first
    ∃ v, t.Stands effect empty all v ∧ Deed.NeverTwice t.deeds ∧
      ∀ a : Attempt σ δ, a.runs.Follow effect → ∃ progress v',
        a.work t.migrator t.store = (.ok progress, (a.make t).store) ∧ (a.make t).Stands effect empty all v' ∧
        a.way.Came t.migrator v t.store.content progress v' (a.make t).store.content ∧
        (a.way = .up none → a.runs.Succeed effect → (∀ m ∈ migrations, m.Recordable) →
          (effects effect (all.flatMap Migration.up) empty).isSome → progress.failure = none) ∧
        (a.way = .up none → progress.failure = none →
          v' = (Migrator.ofList migrations).latest ∧
          effects effect (all.flatMap Migration.up) empty = some (a.make t).store.content.schema ∧
          ∀ (direct : Attempt σ δ) (done : Progress σ), direct.way = .up none → direct.runs.Follow effect →
            (direct.work first.migrator first.store).1 = .ok done → done.failure = none →
            (direct.make first).Stands effect empty all v' ∧
              (direct.make first).store.content.schema = (a.make t).store.content.schema) := by
  intro all first t
  have begun : first.InOrder effect empty all [] := start_inOrder distinct positive undone empty now journal
  obtain ⟨done, inOrder⟩ := begun.makeAll attempts follow
  refine ⟨Migrator.latestOf done, inOrder.stands, inOrder.deeds.neverTwice, fun a follow => ?_⟩
  obtain ⟨progress, done', _, worked, inOrder', _, came, _, _⟩ := inOrder.make follow
  have answered : (a.work t.migrator t.store).1 = .ok progress := congrArg Prod.fst worked
  have reading : ∀ m ∈ all, m ∈ migrations := fun _ => Migrator.mem_migrations_ofList.mp
  refine ⟨progress, Migrator.latestOf done', worked, inOrder'.stands, came, ?_, ?_⟩
  · intro isUp succeed recordable able
    exact inOrder.unfailed follow isUp succeed (fun m among => recordable m (reading m among)) able answered
  · intro isUp fine
    have whole := inOrder.catches_up follow isUp answered fine
    -- The version is read from the same store in both, so what has been applied ends at the same one.
    have same : Migrator.latestOf done' = Migrator.latestOf all := by
      have told := inOrder'.stands.version.symm.trans whole.stands.version
      simpa using congrArg Prod.fst told
    have latest := Migrator.latest_eq_latestOf begun.ordered.ascending
    refine ⟨same.trans latest.symm, whole.ordered.stacked.built, fun direct completed directUp directly went ended => ?_⟩
    have whole' := begun.catches_up directly directUp went ended
    have schemas := whole'.ordered.stacked.built.symm.trans whole.ordered.stacked.built
    rw [same]
    exact ⟨whole'.stands, Option.some.inj schemas⟩

end Trail

end

namespace Ddl

def effect (d : Ddl) (t : Tables) : Option Tables := (run d false t).toOption.map Prod.snd

def runUnless (refused d : Ddl) : Statement Database Unit := fun deferred c =>
  if d = refused then .error (.missingTable "accounts") else (run d).onSchema deferred c

theorem onSchema_follows {d : Ddl} {deferred : Bool} {c c' : Database} (ran : (run d).onSchema deferred c = .ok ((), c')) :
    ∃ t, effect d c.schema = some t ∧ c' = { c with schema := t } := by
  obtain ⟨⟨_, t⟩, came, rest⟩ := bind_eq_ok.mp ran
  cases rest
  have same : run d false c.schema = .ok ((), t) := came
  refine ⟨t, ?_, rfl⟩
  rw [effect, same]
  rfl

theorem runs_follow : Runs.Follow (inferInstance : Runs Ddl Tables) effect := fun _ _ _ _ => onSchema_follows

theorem runUnless_follow (refused : Ddl) : Runs.Follow (⟨runUnless refused⟩ : Runs Ddl Tables) effect := by
  intro d deferred c c' ran
  change runUnless refused d deferred c = .ok ((), c') at ran
  unfold runUnless at ran
  split at ran
  · cases ran
  · exact onSchema_follows ran

theorem runs_succeed : Runs.Succeed (inferInstance : Runs Ddl Tables) effect := by
  intro d deferred c t came
  have answered : run d deferred c.schema = .ok ((), t) := by
    unfold effect at came
    rcases ran : run d false c.schema with refusal | ⟨_, t'⟩
    · rw [ran] at came
      cases came
    · rw [ran] at came
      cases came
      exact ran
  exact bind_eq_ok.mpr ⟨((), t), answered, rfl⟩

theorem migrations_undo : ∀ m ∈ migrations, m.Undoes effect := by
  simp only [migrations, List.forall_mem_cons, List.not_mem_nil, false_implies, implies_true, and_true]
  refine ⟨?_, ?_, ?_, ?_⟩
  all_goals
    rintro back ⟨accounts, orders, log⟩ d₁ d₂ isBack - there back_
    cases isBack
  · cases accounts with
    | none =>
      cases there
      cases back_
      rfl
    | some rows => cases there
  · cases orders with
    | none =>
      cases there
      cases back_
      rfl
    | some rows => cases there
  · cases log with
    | none =>
      cases there
      cases back_
      rfl
    | some log => cases there
  · rcases log with _ | ⟨entries, next, _ | _, _ | _⟩
    · cases there
    · cases there
      cases back_
      rfl
    · cases there
    · cases there
    · cases there

theorem migrations_recordable : ∀ m ∈ migrations, m.Recordable := by
  intro m among
  obtain ⟨name, names⟩ := migrations_namePlainly m among
  have fits : ∀ m ∈ migrations, fitsInteger m.version = true := by decide
  exact ⟨fits m among, name.encodable, _, checksum_of_plain (wordingOf_plain names)⟩

end Ddl

/-- The built-in migrations, of which the last fails at its second statement before two others are rolled back, end at the version and the
schema at which they end when nothing fails. -/
theorem Trail.attempts_stand_of_ledger :
    let all := (Migrator.ofList Ddl.migrations).migrations
    let first : Trail Ddl Tables := start Ddl.migrations .empty (.universal .default) []
    let t := makeAll [⟨.up none, ⟨Ddl.runUnless .guardDelete⟩, .default⟩, ⟨.down 1, inferInstance, .default⟩] first
    let a : Attempt Ddl Tables := ⟨.up none, inferInstance, .default⟩
    ∃ progress, (a.work t.migrator t.store).1 = .ok progress ∧ progress.failure = none ∧ (a.make t).Stands Ddl.effect .empty all 4 ∧
      (a.make t).store.content.schema = Books.fresh.tables := by
  have follow : ∀ a ∈ ([⟨.up none, ⟨Ddl.runUnless .guardDelete⟩, .default⟩, ⟨.down 1, inferInstance, .default⟩] :
      List (Attempt Ddl Tables)), a.runs.Follow Ddl.effect :=
    List.forall_mem_cons.mpr ⟨Ddl.runUnless_follow _, List.forall_mem_singleton.mpr Ddl.runs_follow⟩
  have stand := attempts_stand Ddl.migrations (by decide) (by decide) Ddl.migrations_undo .empty (.universal .default) [] _ follow
  have listed : (Migrator.ofList Ddl.migrations).migrations = Ddl.migrations := by
    have planned : (Migrator.ofList Ddl.migrations).planned = _ := System.migrator_planned
    unfold Migrator.migrations
    rw [planned]
    rfl
  have four : (Migrator.ofList Ddl.migrations).latest = 4 := by
    unfold Migrator.latest
    rw [listed]
    rfl
  have built : effects Ddl.effect ((Migrator.ofList Ddl.migrations).migrations.flatMap Migration.up) .empty = some Books.fresh.tables := by
    rw [listed]
    rfl
  dsimp only at stand ⊢
  generalize (makeAll _ (start Ddl.migrations _ _ _) : Trail Ddl Tables) = t at stand ⊢
  obtain ⟨_, _, _, next⟩ := stand
  obtain ⟨progress, v, worked, stands, _, unfailed, ends⟩ := next ⟨.up none, inferInstance, .default⟩ Ddl.runs_follow
  have fine := unfailed rfl Ddl.runs_succeed Ddl.migrations_recordable (built ▸ rfl)
  obtain ⟨latest, schema, _⟩ := ends rfl fine
  rw [latest, four] at stands
  exact ⟨progress, congrArg Prod.fst worked, fine, stands, Option.some.inj (schema.symm.trans built)⟩

end Passbook
