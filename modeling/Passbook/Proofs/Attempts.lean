import Passbook.Proofs.Migrations
import Passbook.Proofs.Timestamps

/-! Attempts at migrations whose statements may fail. One that fails leaves the content as it was, and one that does not has made of it
what its statements make and changed the record along; so a call comes as far as the first migration that fails. -/
namespace Passbook
open Journal Time

namespace Migrator
variable {σ δ α β : Type} {c c' saved : Catalog δ} {now : Reading} {journal : List Record}

/-- Work in a session answers and leaves a content as `done` has it, or fails; the session goes on in either case. -/
inductive Goes (saved : Catalog δ) (now : Reading) (journal : List Record) (done : α → Catalog δ → Prop) :
    Except Failure α × Store (Catalog δ) → Prop
  | on {a : α} {c : Catalog δ} (came : done a c) : Goes saved now journal done (.ok a, ⟨c, .busy saved false, now, journal⟩)
  | stops (e : Failure) (c : Catalog δ) : Goes saved now journal done (.error e, ⟨c, .busy saved false, now, journal⟩)

inductive Tries (c : Catalog δ) (now : Reading) (done : α → Catalog δ → Prop) (blame : Failure → Prop) :
    Except Failure α × Store (Catalog δ) → Prop
  | kept {a : α} {c' : Catalog δ} (later : List Record) (came : done a c') : Tries c now done blame (.ok a, ⟨c', .idle, now, later⟩)
  | undone {e : Failure} (later : List Record) (blamed : blame e) : Tries c now done blame (.error e, ⟨c, .idle, now, later⟩)

theorem Tries.mono {done done' : α → Catalog δ → Prop} {blame : Failure → Prop} {result : Except Failure α × Store (Catalog δ)}
    (tries : Tries c now done blame result) (wider : ∀ a c', done a c' → done' a c') : Tries c now done' blame result := by
  cases tries with
  | kept later came => exact .kept later (wider _ _ came)
  | undone later blamed => exact .undone later blamed

theorem Tries.wider {done : α → Catalog δ → Prop} {blame blame' : Failure → Prop} {result : Except Failure α × Store (Catalog δ)}
    (tries : Tries c now done blame result) (wider : ∀ e, blame e → blame' e) : Tries c now done blame' result := by
  cases tries with
  | kept later came => exact .kept later came
  | undone later blamed => exact .undone later (wider _ blamed)

theorem Tries.answer {done : Catalog δ → Prop} {blame : Failure → Prop} {act : Work (Catalog δ) α} (answer : α → β)
    (tries : Tries c now (fun _ => done) blame (act ⟨c, .idle, now, journal⟩)) :
    Tries c now (fun _ => done) blame ((act >>= fun a => pure (answer a)) ⟨c, .idle, now, journal⟩) := by
  generalize ran : act ⟨c, .idle, now, journal⟩ = result at tries
  cases tries with
  | kept later came =>
    rw [Act.bind_of_ok ran]
    exact .kept later came
  | undone later blamed =>
    rw [Act.bind_of_error ran]
    exact .undone later blamed

theorem Goes.bind {done : α → Catalog δ → Prop} {done' : β → Catalog δ → Prop} {act : Work (Catalog δ) α}
    {next : α → Work (Catalog δ) β} (first : Goes saved now journal done (act ⟨c, .busy saved false, now, journal⟩))
    (rest : ∀ a c', done a c' → Goes saved now journal done' (next a ⟨c', .busy saved false, now, journal⟩)) :
    Goes saved now journal done' ((act >>= next) ⟨c, .busy saved false, now, journal⟩) := by
  generalize ran : act ⟨c, .busy saved false, now, journal⟩ = result at first
  cases first with
  | on came =>
    rw [Act.bind_of_ok ran]
    exact rest _ _ came
  | stops e c' =>
    rw [Act.bind_of_error ran]
    exact .stops e c'

theorem Goes.mono {done done' : α → Catalog δ → Prop} {result : Except Failure α × Store (Catalog δ)}
    (goes : Goes saved now journal done result) (wider : ∀ a c', done a c' → done' a c') : Goes saved now journal done' result := by
  cases goes with
  | on came => exact .on (wider _ _ came)
  | stops e c' => exact .stops e c'

theorem Goes.execute (operation : String) (statement : Statement (Catalog δ) α) :
    Goes saved now journal (fun a c' => statement false c = .ok (a, c'))
      (Work.execute operation statement ⟨c, .busy saved false, now, journal⟩) := by
  unfold Work.execute
  dsimp only
  generalize statement false c = answer
  cases answer with
  | ok answered => exact .on rfl
  | error refusal => exact .stops _ c

theorem Goes.ofExcept (outcome : Except Failure α) :
    Goes saved now journal (fun a c' => outcome = .ok a ∧ c' = c) (Act.ofExcept outcome ⟨c, .busy saved false, now, journal⟩) := by
  cases outcome with
  | ok a => exact .on ⟨rfl, rfl⟩
  | error e => exact .stops e c

theorem inUnit_tries [Keyed δ] {done : α → Catalog δ → Prop} {w : Work (Catalog δ) α}
    (goes : Goes c now journal done (w ⟨c, .busy c false, now, journal⟩)) :
    Tries c now done (fun _ => True) (Work.inUnit w ⟨c, .idle, now, journal⟩) := by
  rw [Work.inUnit_eq rfl]
  dsimp only
  generalize w ⟨c, .busy c false, now, journal⟩ = result at goes
  cases goes with
  | on came => exact .kept journal came
  | stops e c' => exact .undone journal trivial

section
variable [Runs σ δ]

theorem runAll_goes (m : Migration σ) (statements : List σ) :
    Goes saved now journal (fun _ c' => Changes statements c c') (runAll m statements ⟨c, .busy saved false, now, journal⟩) := by
  induction statements generalizing c with
  | nil => exact .on (.done c)
  | cons statement rest ih =>
    refine Goes.bind (.execute m.operation (Runs.run statement)) fun _ c₁ ran => ?_
    exact (ih (c := c₁)).mono fun _ _ changes => .next ran changes

/-- What statements make of a catalog, and then the removal of the record of the migration that they take back. -/
inductive Reverts (m : Migration σ) (statements : List σ) (c c' : Catalog δ) : Prop
  | mk {c₁ : Catalog δ} {count : Nat} (changes : Changes statements c c₁)
      (forgotten : AppliedRows.remove m.version false c₁ = .ok (count, c'))

variable [Keyed δ] [Worded σ]

theorem applyUnit_tries (m : Migration σ) :
    Tries c now (fun time c' => time = now ∧ Applies m now c c') (fun _ => True) (applyUnit m ⟨c, .idle, now, journal⟩) := by
  unfold applyUnit
  refine inUnit_tries (Goes.bind (runAll_goes m m.up) fun _ c₁ changes => ?_)
  have clock : Goes c now journal (fun time c' => time = now ∧ c' = c₁) (Work.clock ⟨c₁, .busy c false, now, journal⟩) :=
    .on ⟨rfl, rfl⟩
  refine Goes.bind clock ?_
  rintro _ _ ⟨rfl, rfl⟩
  refine Goes.bind (.ofExcept _) ?_
  rintro sum _ ⟨summed, rfl⟩
  refine Goes.bind (.execute _ _) fun _ c₂ recorded => .on ⟨rfl, ?_⟩
  cases checksum : m.checksum with
  | ok sum' =>
    rw [checksum] at summed
    cases summed
    exact .mk changes checksum recorded
  | error fault =>
    rw [checksum] at summed
    cases summed

omit [Worded σ] in
theorem rollbackUnit_tries (m : Migration σ) (statements : List σ) :
    Tries c now (fun _ c' => Reverts m statements c c') (fun _ => True) (rollbackUnit m statements ⟨c, .idle, now, journal⟩) := by
  unfold rollbackUnit
  refine inUnit_tries (Goes.bind (runAll_goes m statements) fun _ c₁ changes => ?_)
  exact Goes.bind (.execute _ _) fun _ c₂ forgotten => .on (.mk changes forgotten)

def Blames (m : Migration σ) (e : Failure) : Prop := ∃ stage cause, e = .migration stage m.label cause

theorem apply_tries (m : Migration σ) :
    Tries c now (fun _ c' => Applies m now c c') (fun e => Blames m e ∧ ∀ c', ¬ Applies m now c c')
      (apply m ⟨c, .idle, now, journal⟩) := by
  obtain ⟨journal₁, told⟩ := tells Level.info ("Applying " ++ m.label) c .idle now journal
  have unit : Tries c now _ _ (applyUnit m ⟨c, .idle, now, journal₁⟩) := applyUnit_tries m
  generalize ran : applyUnit m ⟨c, .idle, now, journal₁⟩ = result at unit
  have settled : (applyUnit m).outcome ⟨c, .idle, now, journal₁⟩ = (.ok result.1, result.2) := by
    unfold Act.outcome
    rw [ran]
  unfold apply
  rw [Act.bind_of_ok told, Act.bind_of_ok settled]
  cases unit with
  | kept later came =>
    obtain ⟨rfl, applies⟩ := came
    exact .kept _ applies
  | undone later blamed =>
    refine .undone _ ⟨⟨.applying, _, rfl⟩, fun c' applies => ?_⟩
    rw [applyUnit_of_applies applies] at ran
    cases ran

omit [Worded σ] in
theorem rollback_tries (m : Migration σ) :
    Tries c now (fun _ c' => ∃ back, back ≠ [] ∧ m.down = some back ∧ Reverts m back c c') (Blames m)
      (rollback m ⟨c, .idle, now, journal⟩) := by
  unfold rollback
  rcases isDown : m.down with _ | _ | ⟨first, rest⟩
  · exact .undone journal ⟨.noWayBack, none, rfl⟩
  · exact .undone journal ⟨.noWayBack, none, rfl⟩
  · obtain ⟨journal₁, told⟩ := tells Level.info ("Rolling back " ++ m.label) c .idle now journal
    have unit : Tries c now _ _ (rollbackUnit m (first :: rest) ⟨c, .idle, now, journal₁⟩) := rollbackUnit_tries m (first :: rest)
    dsimp only
    generalize ran : rollbackUnit m (first :: rest) ⟨c, .idle, now, journal₁⟩ = result at unit
    have settled : (rollbackUnit m (first :: rest)).outcome ⟨c, .idle, now, journal₁⟩ = (.ok result.1, result.2) := by
      unfold Act.outcome
      rw [ran]
    rw [Act.bind_of_ok told, Act.bind_of_ok settled]
    cases unit with
    | kept later came => exact .kept _ ⟨first :: rest, List.cons_ne_nil _ _, rfl, came⟩
    | undone later _ => exact .undone _ ⟨.rollingBack, _, rfl⟩

end

/-- Why a call stopped, if migrations are left that it was to take: the first of them failed. -/
inductive Stopped (blame : Migration σ → Failure → Prop) : List (Migration σ) → Option Failure → Prop
  | ended : Stopped blame [] none
  | failed {m : Migration σ} {rest : List (Migration σ)} {e : Failure} (blamed : blame m e) : Stopped blame (m :: rest) (some e)

theorem Stopped.mono {blame blame' : Migration σ → Failure → Prop} {left : List (Migration σ)} {failure : Option Failure}
    (stopped : Stopped blame left failure) (wider : ∀ m e, blame m e → blame' m e) : Stopped blame' left failure := by
  cases stopped with
  | ended => exact .ended
  | failed blamed => exact .failed (wider _ _ blamed)

/-- What taking migrations in turn comes to: of those that are due some are completed, for which `held` holds, and the others are left. -/
structure Comes (held : List (Migration σ) → Catalog δ → Prop) (blame : Catalog δ → Migration σ → Failure → Prop)
    (all due : List (Migration σ)) (progress : Progress σ) (left : List (Migration σ)) (c' : Catalog δ) : Prop where
  held : held progress.completed c'
  planned : progress.planned.map Planned.migration = all
  due : due = progress.completed ++ left
  stopped : Stopped (blame c') left progress.failure

def Takes (now : Reading) (held : List (Migration σ) → Catalog δ → Prop) (blame : Catalog δ → Migration σ → Failure → Prop)
    (all due : List (Migration σ)) (c : Catalog δ) (w : Work (Catalog δ) (Progress σ)) : Prop :=
  ∀ journal, ∃ progress c' later left, w ⟨c, .idle, now, journal⟩ = (.ok progress, ⟨c', .idle, now, later⟩) ∧
    Comes held blame all due progress left c'

/-- The migrations that are due are taken in turn up to the first that fails. What each of them makes of the content is told by those
before it. -/
theorem runEach_takes {chosen : Migration σ → Bool} {act : Migration σ → Work (Catalog δ) (Option Reading)}
    {held : List (Migration σ) → Catalog δ → Prop} {blame : Catalog δ → Migration σ → Failure → Prop}
    {due : List (Migration σ)} (step : ∀ before m after, due = before ++ m :: after → ∀ c journal, held before c →
      Tries c now (fun _ c' => held (before ++ [m]) c') (blame c m) (act m ⟨c, .idle, now, journal⟩))
    (planned : List (Planned σ)) {before : List (Migration σ)} (split : due = before ++ (planned.map Planned.migration).filter chosen)
    (holds : held before c) :
    Takes now (fun completed => held (before ++ completed)) blame (planned.map Planned.migration)
      ((planned.map Planned.migration).filter chosen) c (runEach chosen act planned) := by
  -- `before` grows by each migration that is taken, so that `held` tells what the next one finds.
  induction planned generalizing before c with
  | nil => exact fun journal => ⟨⟨[], [], none⟩, c, journal, [], rfl, (List.append_nil before).symm ▸ holds, rfl, rfl, .ended⟩
  | cons p rest ih =>
    intro journal
    unfold runEach
    by_cases isChosen : chosen p.migration = true
    · rw [List.map_cons, List.filter_cons_of_pos isChosen] at split ⊢
      have tried := step before p.migration _ split c journal holds
      rw [if_pos isChosen]
      generalize ran : act p.migration ⟨c, .idle, now, journal⟩ = result at tried
      have settled : (act p.migration).outcome ⟨c, .idle, now, journal⟩ = (.ok result.1, result.2) := by
        unfold Act.outcome
        rw [ran]
      rw [Act.bind_of_ok settled]
      cases tried with
      | @kept appliedAt c₁ journal₁ came =>
        rw [List.append_cons] at split
        obtain ⟨progress, c', later, left, went, comes⟩ := ih split came journal₁
        refine ⟨⟨{ p with appliedAt } :: progress.planned, p.migration :: progress.completed, progress.failure⟩,
          c', later, left, ?_, ?_⟩
        · dsimp only
          rw [Act.bind_of_ok went]
          rfl
        · exact {
            held := (List.append_cons before p.migration progress.completed).symm ▸ comes.held
            planned := by rw [List.map_cons, comes.planned]
            due := by rw [comes.due, List.cons_append]
            stopped := comes.stopped }
      | @undone e journal₁ blamed =>
        exact ⟨⟨p :: rest, [], some e⟩, c, journal₁, _, rfl, (List.append_nil before).symm ▸ holds, rfl, rfl, .failed blamed⟩
    · rw [List.map_cons, List.filter_cons_of_neg isChosen] at split ⊢
      obtain ⟨progress, c', later, left, went, comes⟩ := ih split holds journal
      refine ⟨{ progress with planned := p :: progress.planned }, c', later, left, ?_, { comes with planned := ?_ }⟩
      · rw [if_neg isChosen, Act.bind_of_ok went]
        rfl
      · rw [List.map_cons, comes.planned]

end Migrator
end Passbook
