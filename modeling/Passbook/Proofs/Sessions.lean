import Passbook.Store.Session

/-! Acts on a state that holds a store. What they make of it is told by relations between the store they find and the one they leave.
While a session is open, acts leave it open and keep what its rollback restores, and the content goes on by whole statements: one
that is refused leaves it as it was. While none is open, the content goes on by units that were committed. -/
namespace Passbook

namespace Act
variable {σ α β : Type} {act : Act σ α} {next : α → Act σ β} {s t : σ}

theorem bind_of_ok {a : α} (ran : act s = (.ok a, t)) : (act >>= next) s = next a t := by
  change Act.bind act next s = next a t
  unfold Act.bind
  rw [ran]

theorem bind_of_error {e : Failure} (ran : act s = (.error e, t)) : (act >>= next) s = (.error e, t) := by
  change Act.bind act next s = (.error e, t)
  unfold Act.bind
  rw [ran]

theorem bind_eq_ok {b : β} : (act >>= next) s = (.ok b, t) ↔ ∃ a u, act s = (.ok a, u) ∧ next a u = (.ok b, t) := by
  rcases ran : act s with ⟨e | a, u⟩
  · rw [bind_of_error ran]
    simp
  · rw [bind_of_ok ran]
    constructor
    · exact fun goes => ⟨a, u, rfl, goes⟩
    · rintro ⟨_, _, ⟨⟩, goes⟩
      exact goes

variable {handle : Failure → Act σ α}

theorem tryCatch_of_ok {a : α} (ran : act s = (.ok a, t)) : Act.tryCatch act handle s = (.ok a, t) := by
  unfold Act.tryCatch
  rw [ran]

theorem tryCatch_of_error {e : Failure} (ran : act s = (.error e, t)) : Act.tryCatch act handle s = handle e t := by
  unfold Act.tryCatch
  rw [ran]

variable {change : Failure → Failure}

theorem recast_of_ok {a : α} (ran : act s = (.ok a, t)) : act.recast change s = (.ok a, t) := by
  unfold Act.recast
  rw [ran]

theorem recast_of_error {e : Failure} (ran : act s = (.error e, t)) : act.recast change s = (.error (change e), t) := by
  unfold Act.recast
  rw [ran]

end Act

/-- States of which the store is a part that can be exchanged. -/
class LawfulHolds (σ : Type) {δ : Type} [Holds σ δ] : Prop where
  store_putStore (store : Store δ) (s : σ) : Holds.store (Holds.putStore store s) = store
  putStore_store (s : σ) : Holds.putStore (Holds.store s) s = s

instance {δ : Type} : LawfulHolds (Store δ) := ⟨fun _ _ => rfl, fun _ => rfl⟩

/-- Ways in which a content and the time at which references are checked may go on while a session is open. -/
class Progression {δ : Type} (R : Bool × δ → Bool × δ → Prop) : Prop where
  refl (x : Bool × δ) : R x x
  trans {x y z : Bool × δ} : R x y → R y z → R x z

instance {δ : Type} : Progression (Eq : Bool × δ → Bool × δ → Prop) := ⟨Eq.refl, Eq.trans⟩

/-- Statements are put one after the other, each told whether references are checked at commit only. One that is refused leaves
the content as it was. -/
inductive Passage {δ : Type} (known : (β : Type) → Statement δ β → Prop) : Bool × δ → Bool × δ → Prop
  | done (x : Bool × δ) : Passage known x x
  | carried {deferred : Bool} {before after : δ} {x : Bool × δ} {β : Type} (statement : Statement δ β) (a : β)
      (among : known β statement) (answered : statement deferred before = .ok (a, after))
      (rest : Passage known (deferred, after) x) : Passage known (deferred, before) x
  | refused {deferred : Bool} {content : δ} {x : Bool × δ} {β : Type} (statement : Statement δ β) (reason : Refusal)
      (among : known β statement) (answered : statement deferred content = .error reason)
      (rest : Passage known (deferred, content) x) : Passage known (deferred, content) x
  | deferring {deferred : Bool} {content : δ} {x : Bool × δ}
      (rest : Passage known (true, content) x) : Passage known (deferred, content) x

namespace Passage
variable {δ : Type} {known known' : (β : Type) → Statement δ β → Prop} {x y z : Bool × δ}

theorem trans (first : Passage known x y) (second : Passage known y z) : Passage known x z := by
  induction first with
  | done => exact second
  | carried statement a among answered _ ih => exact .carried statement a among answered (ih second)
  | refused statement reason among answered _ ih => exact .refused statement reason among answered (ih second)
  | deferring _ ih => exact .deferring (ih second)

instance : Progression (Passage known) := ⟨.done, trans⟩

theorem mono (passage : Passage known x y) (more : ∀ β statement, known β statement → known' β statement) : Passage known' x y := by
  induction passage with
  | done => exact .done _
  | carried statement a among answered _ ih => exact .carried statement a (more _ _ among) answered ih
  | refused statement reason among answered _ ih => exact .refused statement reason (more _ _ among) answered ih
  | deferring _ ih => exact .deferring ih

end Passage

/-- Units committed one after the other, each of which found its references in order. -/
inductive Commits {δ : Type} [Keyed δ] (known : (β : Type) → Statement δ β → Prop) : δ → δ → Prop
  | none (content : δ) : Commits known content content
  | unit {before after last : δ} {deferred : Bool} (passage : Passage known (false, before) (deferred, after))
      (sound : (deferred && Keyed.orphaned after) = false) (rest : Commits known after last) : Commits known before last

theorem Commits.trans {δ : Type} [Keyed δ] {known : (β : Type) → Statement δ β → Prop} {c c₁ c₂ : δ}
    (first : Commits known c c₁) (second : Commits known c₁ c₂) : Commits known c c₂ := by
  induction first with
  | none => exact second
  | unit passage sound _ ih => exact .unit passage sound (ih second)

theorem Commits.mono {δ : Type} [Keyed δ] {known known' : (β : Type) → Statement δ β → Prop} {c c' : δ}
    (commits : Commits known c c') (more : ∀ β statement, known β statement → known' β statement) : Commits known' c c' := by
  induction commits with
  | none => exact .none _
  | unit passage sound _ ih => exact .unit (passage.mono more) sound ih

class Lasting {σ : Type} (R : σ → σ → Prop) : Prop where
  refl (s : σ) : R s s
  trans {s t u : σ} : R s t → R t u → R s u

namespace Store
variable {δ : Type}

def Within (R : Bool × δ → Bool × δ → Prop) (s t : Store δ) : Prop :=
  ∀ saved deferred, s.status = .busy saved deferred →
    ∃ later, t.status = .busy saved later ∧ R (deferred, s.content) (later, t.content)

instance {R : Bool × δ → Bool × δ → Prop} [Progression R] : Lasting (Within R) where
  refl _ _ deferred busy := ⟨deferred, busy, Progression.refl _⟩
  trans first second saved deferred busy := by
    obtain ⟨d, open₁, passage₁⟩ := first saved deferred busy
    obtain ⟨d', open₂, passage₂⟩ := second saved d open₁
    exact ⟨d', open₂, Progression.trans passage₁ passage₂⟩

/-- What becomes of a store while its clock stands: by statements if a session is open, by committed units if none is. -/
def Performs [Keyed δ] (known : (β : Type) → Statement δ β → Prop) (now : Time.Reading) (s t : Store δ) : Prop :=
  s.now = now → t.now = now ∧ Within (Passage known) s t ∧
    (s.status = .idle → t.status = .idle ∧ Commits known s.content t.content)

variable [Keyed δ] {known known' : (β : Type) → Statement δ β → Prop} {now : Time.Reading} {s t : Store δ}

theorem Performs.mono (performs : Performs known now s t) (more : ∀ β statement, known β statement → known' β statement) :
    Performs known' now s t := by
  intro here
  obtain ⟨here', within, commits⟩ := performs here
  refine ⟨here', ?_, fun idle => ⟨(commits idle).1, (commits idle).2.mono more⟩⟩
  intro saved deferred busy
  obtain ⟨later, still, passage⟩ := within saved deferred busy
  exact ⟨later, still, passage.mono more⟩

instance : Lasting (Performs known now : Store δ → Store δ → Prop) where
  refl s here := ⟨here, Lasting.refl s, fun idle => ⟨idle, .none _⟩⟩
  trans first second here := by
    obtain ⟨here₁, within₁, commits₁⟩ := first here
    obtain ⟨here₂, within₂, commits₂⟩ := second here₁
    refine ⟨here₂, Lasting.trans within₁ within₂, fun idle => ?_⟩
    obtain ⟨idle₁, commits₁⟩ := commits₁ idle
    obtain ⟨idle₂, commits₂⟩ := commits₂ idle₁
    exact ⟨idle₂, commits₁.trans commits₂⟩

end Store

namespace Act
variable {σ δ α β : Type} [Holds σ δ] {R R' : Store δ → Store δ → Prop}

/-- Wherever the act begins, the store it leaves is so related to the one it found, whether it answers or fails. -/
def Leads (R : Store δ → Store δ → Prop) (act : Act σ α) : Prop := ∀ s, R (Holds.store s) (Holds.store (act s).2)

theorem Leads.mono {act : Act σ α} (leads : act.Leads R) (wider : ∀ s t, R s t → R' s t) : act.Leads R' :=
  fun s => wider _ _ (leads s)

theorem Leads.recast {act : Act σ α} (change : Failure → Failure) (leads : act.Leads R) : (act.recast change).Leads R := by
  intro s
  have here := leads s
  unfold Act.recast
  rcases ran : act s with ⟨e | a, t⟩ <;> (rw [ran] at here; exact here)

theorem Leads.outcome {act : Act σ α} (leads : act.Leads R) : act.outcome.Leads R := leads

theorem Leads.onStore [LawfulHolds σ] {w : Work δ α} (leads : w.Leads R) : (Act.onStore w : Act σ α).Leads R := by
  intro s
  have held : (Holds.store ((Act.onStore w : Act σ α) s).2 : Store δ) = (w (Holds.store s)).2 :=
    LawfulHolds.store_putStore _ _
  rw [held]
  exact leads (Holds.store s)

variable [Lasting R]

theorem Leads.of_same {act : Act σ α} (same : ∀ s, (Holds.store (act s).2 : Store δ) = Holds.store s) : act.Leads R := by
  intro s
  rw [same s]
  exact Lasting.refl _

theorem Leads.ofExcept (outcome : Except Failure α) : (Act.ofExcept outcome : Act σ α).Leads R := .of_same fun _ => rfl

theorem Leads.bind {act : Act σ α} {next : α → Act σ β} (first : act.Leads R) (rest : ∀ a, (next a).Leads R) :
    (act >>= next).Leads R := by
  intro s
  have here := first s
  rcases ran : act s with ⟨e | a, t⟩
  · rw [Act.bind_of_error ran]
    rw [ran] at here
    exact here
  · rw [Act.bind_of_ok ran]
    rw [ran] at here
    exact Lasting.trans here (rest a t)

theorem Leads.guard {condition : Prop} [Decidable condition] {e : Failure} {next : Unit → Act σ α} (rest : (next ()).Leads R) :
    (if condition then (throw e : Act σ Unit) >>= next else next ()).Leads R := by
  split
  · exact .bind (.ofExcept (.error e)) fun _ => rest
  · exact rest

theorem Leads.tryCatch {act : Act σ α} {handle : Failure → Act σ α} (first : act.Leads R)
    (rest : ∀ e, (handle e).Leads R) : (Act.tryCatch act handle).Leads R := by
  intro s
  have here := first s
  unfold Act.tryCatch
  rcases ran : act s with ⟨e | a, t⟩
  · rw [ran] at here
    exact Lasting.trans here (rest e t)
  · rw [ran] at here
    exact here

/-- The act stays within an open session: it neither ends the session nor touches what a rollback restores, and the content goes
on in one of the given ways. -/
def Stays (R : Bool × δ → Bool × δ → Prop) (act : Act σ α) : Prop :=
  ∀ s saved deferred, (Holds.store s : Store δ).status = .busy saved deferred →
    ∃ later, (Holds.store (act s).2 : Store δ).status = .busy saved later ∧
      R (deferred, (Holds.store s : Store δ).content) (later, (Holds.store (act s).2 : Store δ).content)

theorem stays_iff_leads {R : Bool × δ → Bool × δ → Prop} {act : Act σ α} : act.Stays R ↔ act.Leads (Store.Within R) := Iff.rfl

def Answers (R : Store δ → Store δ → Prop) (act : Act σ α) : Prop :=
  ∀ s a t, act s = (.ok a, t) → R (Holds.store s) (Holds.store t)

section
variable {R R' R'' : Store δ → Store δ → Prop}

theorem Leads.answers {act : Act σ α} (leads : act.Leads R) : act.Answers R := by
  intro s a t ran
  have here := leads s
  rw [ran] at here
  exact here

theorem Answers.bind {act : Act σ α} {next : α → Act σ β} (first : act.Answers R) (rest : ∀ a, (next a).Answers R')
    (through : ∀ {s t u}, R s t → R' t u → R'' s u) : (act >>= next).Answers R'' := by
  intro s b u ran
  obtain ⟨a, t, here, there⟩ := bind_eq_ok.mp ran
  exact through (first s a t here) (rest a t b u there)

theorem Answers.of_ofExcept {outcome : Except Failure α} {next : α → Act σ β} (rest : ∀ a, (next a).Answers R) :
    (Act.ofExcept outcome >>= next).Answers R := by
  intro s b u ran
  obtain ⟨a, t, here, there⟩ := bind_eq_ok.mp ran
  cases here
  exact rest a _ b u there

theorem Answers.map {act : Act σ α} (answers : act.Answers R) (f : α → β) : (f <$> act).Answers R := by
  intro s b u ran
  obtain ⟨a, t, here, ⟨⟩⟩ := bind_eq_ok.mp ran
  exact answers s a u here

theorem Answers.onStore [LawfulHolds σ] {w : Work δ α} (answers : w.Answers R) : (Act.onStore w : Act σ α).Answers R := by
  intro s a t ran
  obtain ⟨answered, rfl⟩ := Prod.ext_iff.mp ran
  have held : (Holds.store ((Act.onStore w : Act σ α) s).2 : Store δ) = (w (Holds.store s)).2 := LawfulHolds.store_putStore _ _
  rw [held]
  exact answers (Holds.store s) a _ (Prod.ext answered rfl)

end

/-- The act would open a session of its own: while one is open it fails for that and changes nothing at all. -/
def Refused (act : Act σ α) : Prop :=
  ∀ s saved deferred, (Holds.store s : Store δ).status = .busy saved deferred → act s = (.error Work.openSession, s)

theorem Refused.bind {act : Act σ α} {next : α → Act σ β} (first : act.Refused) : (act >>= next).Refused := by
  intro s saved deferred busy
  exact bind_of_error (first s saved deferred busy)

theorem Refused.leads {R : Bool × δ → Bool × δ → Prop} [Progression R] {act : Act σ α} (refused : act.Refused) :
    act.Leads (Store.Within R) := by
  intro s saved deferred busy
  rw [refused s saved deferred busy]
  exact ⟨deferred, busy, Progression.refl _⟩

end Act

namespace Work
variable {δ α : Type}

theorem execute_of_ok (operation : String) {statement : Statement δ α} {a : α} {content content' : δ} {s : Store δ}
    {saved : δ} (busy : s.status = .busy saved false) (held : s.content = content)
    (answers : statement false content = .ok (a, content')) :
    execute operation statement s = (.ok a, { s with content := content' }) := by
  subst held
  unfold execute
  simp only [busy, answers]

theorem execute_eq_ok {operation : String} {statement : Statement δ α} {a : α} {s t : Store δ}
    (ran : execute operation statement s = (.ok a, t)) :
    ∃ saved deferred content, s.status = .busy saved deferred ∧ statement deferred s.content = .ok (a, content) ∧
      t = { s with content } := by
  unfold execute at ran
  split at ran
  · cases ran
  · cases ran
  · rename_i saved deferred busy
    split at ran
    · rename_i content answered
      cases ran
      exact ⟨saved, deferred, content, busy, answered, rfl⟩
    · cases ran

theorem instant_eq {now : Time.Reading} {s : Store δ} (here : s.now = now) :
    (instant : Work δ Time.Instant) s = (now.instant.mapError .time, s) := by
  rw [← here]
  rfl

theorem instant_eq_ok {time : Time.Instant} {s t : Store δ} (ran : (instant : Work δ Time.Instant) s = (.ok time, t)) :
    s.now.instant = .ok time ∧ t = s := by
  rw [instant_eq rfl] at ran
  cases shown : s.now.instant with
  | ok shown' =>
    rw [shown] at ran
    cases ran
    exact ⟨rfl, rfl⟩
  | error e =>
    rw [shown] at ran
    cases ran

theorem clock_leads {R : Store δ → Store δ → Prop} [Lasting R] : (clock : Work δ Time.Reading).Leads R := .of_same fun _ => rfl

section
variable {R : Bool × δ → Bool × δ → Prop} [Progression R]

theorem record_within (level : Journal.Level) (source message : String) (details : Journal.Details) :
    (record level source message details : Work δ Unit).Leads (Store.Within R) :=
  fun _ _ deferred busy => ⟨deferred, busy, Progression.refl _⟩

theorem setClock_within (now : Time.Reading) : (setClock now : Work δ Unit).Leads (Store.Within R) :=
  fun _ _ deferred busy => ⟨deferred, busy, Progression.refl _⟩

end

variable [Keyed δ] {known : (β : Type) → Statement δ β → Prop} {now : Time.Reading}

theorem performs_of_same {s t : Store δ} (same : t = s) : Store.Performs known now s t := by
  rw [same]
  exact Lasting.refl s

theorem record_performs (level : Journal.Level) (source message : String) (details : Journal.Details) :
    (record level source message details : Work δ Unit).Leads (Store.Performs known now) :=
  fun s here => ⟨here, record_within level source message details s, fun idle => ⟨idle, .none _⟩⟩

theorem execute_performs (operation : String) {statement : Statement δ α} (among : known α statement) :
    (execute operation statement).Leads (Store.Performs known now) := by
  intro s here
  cases status : s.status with
  | idle => exact performs_of_same (by simp only [execute, status]) here
  | closed => exact performs_of_same (by simp only [execute, status]) here
  | busy saved deferred =>
    cases answered : statement deferred s.content with
    | error reason =>
      have same : (execute operation statement s).2 = s := by simp only [execute, status, answered]
      refine ⟨by rw [same]; exact here, ?_, fun idle => nomatch status.symm.trans idle⟩
      intro saved' deferred' busy
      cases status.symm.trans busy
      rw [same]
      exact ⟨deferred, status, .refused statement reason among answered (.done _)⟩
    | ok answer =>
      have turned : (execute operation statement s).2 = { s with content := answer.2 } := by simp only [execute, status, answered]
      refine ⟨by rw [turned]; exact here, ?_, fun idle => nomatch status.symm.trans idle⟩
      intro saved' deferred' busy
      cases status.symm.trans busy
      rw [turned]
      exact ⟨deferred, status, .carried statement answer.1 among answered (.done _)⟩

theorem deferReferences_performs : (deferReferences : Work δ Unit).Leads (Store.Performs known now) := by
  intro s here
  cases status : s.status with
  | idle => exact performs_of_same (by simp only [deferReferences, status]) here
  | closed => exact performs_of_same (by simp only [deferReferences, status]) here
  | busy saved deferred =>
    have turned : (deferReferences s).2 = { s with status := .busy saved true } := by simp only [deferReferences, status]
    rw [turned]
    refine ⟨here, ?_, fun idle => nomatch status.symm.trans idle⟩
    intro saved' deferred' busy
    cases status.symm.trans busy
    exact ⟨true, rfl, .deferring (.done _)⟩

theorem inUnit_eq {w : Work δ α} {s : Store δ} (idle : s.status = .idle) :
    inUnit w s = closeUnit (w { s with status := .busy s.content false }).1 (w { s with status := .busy s.content false }).2 := by
  have opens : (openUnit : Work δ Unit) s = (.ok (), { s with status := .busy s.content false }) := by
    unfold openUnit
    simp only [idle]
  exact Act.bind_of_ok opens

theorem inUnit_execute (operation : String) (statement : Statement δ α) {s : Store δ} (idle : s.status = .idle) :
    inUnit (execute operation statement) s = match statement false s.content with
      | .ok (a, content) => (.ok a, { s with content })
      | .error r => (.error (.ofStore (r.raise operation)), s) := by
  rw [inUnit_eq idle]
  obtain ⟨content, status, now, journal⟩ := s
  cases idle
  have executed : execute operation statement ⟨content, .busy content false, now, journal⟩ = match statement false content with
      | .ok (a, content') => (.ok a, ⟨content', .busy content false, now, journal⟩)
      | .error r => (.error (.ofStore (r.raise operation)), ⟨content, .busy content false, now, journal⟩) := rfl
  dsimp only
  rw [executed]
  cases statement false content <;> rfl

theorem inUnit_refused {w : Work δ α} : (inUnit w).Refused := by
  intro s saved deferred busy
  change s.status = .busy saved deferred at busy
  apply Act.bind_of_error
  unfold openUnit
  simp only [busy]

theorem inUnit_of_closed {w : Work δ α} {s : Store δ} (closed : s.status = .closed) : inUnit w s = (.error closedStore, s) := by
  apply Act.bind_of_error
  unfold openUnit
  simp only [closed]

theorem closeUnit_cases (outcome : Except Failure α) {s : Store δ} {saved : δ} {deferred : Bool}
    (busy : s.status = .busy saved deferred) :
    (closeUnit outcome s).2 = { s with status := .idle } ∧ (deferred && Keyed.orphaned s.content) = false ∧
        (∃ a, (closeUnit outcome s).1 = .ok a) ∨
      (closeUnit outcome s).2 = { s with content := saved, status := .idle } ∧ ∃ e, (closeUnit outcome s).1 = .error e := by
  cases outcome with
  | error e =>
    refine .inr ?_
    simp only [closeUnit, rollback, busy]
    exact ⟨trivial, e, rfl⟩
  | ok a =>
    cases broken : deferred && Keyed.orphaned s.content with
    | true =>
      refine .inr ?_
      simp only [closeUnit, commit, busy, broken, if_true]
      exact ⟨trivial, _, rfl⟩
    | false =>
      refine .inl ?_
      simp only [closeUnit, commit, busy, broken, Bool.false_eq_true, if_false]
      exact ⟨trivial, trivial, a, rfl⟩

theorem inUnit_failed {R : Bool × δ → Bool × δ → Prop} {w : Work δ α} {s t : Store δ} {e : Failure}
    (within : w.Leads (Store.Within R))
    (idle : s.status = .idle) (failed : inUnit w s = (.error e, t)) : t.status = .idle ∧ t.content = s.content := by
  obtain ⟨deferred, busy, _⟩ := within { s with status := .busy s.content false } s.content false rfl
  rw [inUnit_eq idle] at failed
  rcases closeUnit_cases (w { s with status := .busy s.content false }).1 busy with ⟨_, _, a, committed⟩ | ⟨ends, _⟩
  · cases (congrArg Prod.fst failed).symm.trans committed
  · cases (congrArg Prod.snd failed).symm.trans ends
    exact ⟨rfl, rfl⟩

theorem inUnit_performs {w : Work δ α} (leads : w.Leads (Store.Performs known now)) :
    (inUnit w).Leads (Store.Performs known now) := by
  intro s here
  cases status : s.status with
  | closed => exact performs_of_same (by rw [inUnit_of_closed status]) here
  | busy saved deferred => exact performs_of_same (by rw [inUnit_refused s saved deferred status]) here
  | idle =>
    have led : Store.Performs known now { s with status := .busy s.content false } (w { s with status := .busy s.content false }).2 :=
      leads _
    have unopened (t : Store δ) : Store.Within (Passage known) s t := fun saved deferred busy => nomatch status.symm.trans busy
    rw [inUnit_eq status]
    generalize w { s with status := .busy s.content false } = result at led ⊢
    obtain ⟨outcome, t⟩ := result
    obtain ⟨here', within, _⟩ := led here
    obtain ⟨deferred, busy, passage⟩ := within s.content false rfl
    rcases closeUnit_cases outcome busy with ⟨ends, sound, _⟩ | ⟨ends, _⟩ <;> dsimp only at ends ⊢
    · rw [ends]
      exact ⟨here', unopened _, fun _ => ⟨rfl, .unit passage sound (.none _)⟩⟩
    · rw [ends]
      exact ⟨here', unopened _, fun _ => ⟨rfl, .none _⟩⟩

end Work
end Passbook
