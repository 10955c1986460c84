import Passbook.Proofs.Units

/-! Runs told with what was done in them: every call that was carried out with what the clock showed before and after it, and the
calls that answered and were not undone. What is carried out is the same whether it is told or not. A course is what a run can be
relied on to keep, told by what a single call keeps. -/
namespace Passbook
open Time

structure Deed (ι : Type) where
  call : ι
  answered : Bool
  before : Reading
  after : Reading

def Deed.answers {ι : Type} (deeds : List (Deed ι)) : List ι := (deeds.filter Deed.answered).map Deed.call

/-- A state with all that was done, and with the calls that answered and were not undone with their unit. -/
structure Chronicle (σ ι : Type) where
  state : σ
  deeds : List (Deed ι) := []
  kept : List ι := []

namespace Chronicle
variable {σ δ ι α : Type} [Holds σ δ]

instance : Holds (Chronicle σ ι) δ :=
  ⟨fun c => Holds.store c.state, fun store c => { c with state := Holds.putStore store c.state }⟩

instance [LawfulHolds σ] : LawfulHolds (Chronicle σ ι) where
  store_putStore store c := LawfulHolds.store_putStore store c.state
  putStore_store c := congrArg (fun state => { c with state }) (LawfulHolds.putStore_store c.state)

def now (c : Chronicle σ ι) : Reading := (Holds.store c.state : Store δ).now

def content (c : Chronicle σ ι) : δ := (Holds.store c.state : Store δ).content

def note (perform : Bool → ι → Act σ α) (isJoined : Bool) (call : ι) : Act (Chronicle σ ι) α := fun c =>
  let ran := perform isJoined call c.state
  (ran.1, { c with
    state := ran.2
    deeds := c.deeds ++ [⟨call, ran.1.isOk, (Holds.store c.state : Store δ).now, (Holds.store ran.2 : Store δ).now⟩] })

def isUndone : Except Failure (Plan.Outcome α) → Bool
  | .ok (.unit (some _) _) => true
  | _ => false

def live [Keyed δ] (perform : Bool → ι → Act σ α) (c : Chronicle σ ι) (plan : Plan ι) : Chronicle σ ι :=
  let ran := Plan.carryOut (note perform) false plan { c with deeds := [] }
  { state := ran.2.state
    deeds := c.deeds ++ ran.2.deeds
    kept := c.kept ++ if isUndone ran.1 then [] else Deed.answers ran.2.deeds }

def lived [Keyed δ] (perform : Bool → ι → Act σ α) (plans : List (Plan ι)) (s : σ) : Chronicle σ ι :=
  plans.foldl (live perform) { state := s }

/-- An act that does to the state told of what another does to the state alone. -/
def Echoes (told : Act (Chronicle σ ι) α) (act : Act σ α) : Prop :=
  ∀ c, (told c).1 = (act c.state).1 ∧ (told c).2.state = (act c.state).2

section
variable {β : Type} {told : Act (Chronicle σ ι) α} {act : Act σ α}

theorem Echoes.result (result : Except Failure α) :
    Echoes (Act.ofExcept result : Act (Chronicle σ ι) α) (Act.ofExcept result : Act σ α) :=
  fun _ => ⟨rfl, rfl⟩

theorem Echoes.onStore (w : Work δ α) : Echoes (Act.onStore w : Act (Chronicle σ ι) α) (Act.onStore w : Act σ α) :=
  fun _ => ⟨rfl, rfl⟩

theorem Echoes.outcome (echoes : Echoes told act) : Echoes told.outcome act.outcome :=
  fun c => ⟨congrArg Except.ok (echoes c).1, (echoes c).2⟩

theorem Echoes.bind {rest : α → Act (Chronicle σ ι) β} {next : α → Act σ β} (echoes : Echoes told act)
    (after : ∀ a, Echoes (rest a) (next a)) : Echoes (told >>= rest) (act >>= next) := by
  intro c
  obtain ⟨same, here⟩ := echoes c
  rcases ran : told c with ⟨e | a, c'⟩ <;> rcases goes : act c.state with ⟨e' | a', t⟩ <;>
    rw [ran, goes] at same here <;> cases same <;> cases here
  · rw [Act.bind_of_error ran, Act.bind_of_error goes]
    exact ⟨rfl, rfl⟩
  · rw [Act.bind_of_ok ran, Act.bind_of_ok goes]
    exact after a c'

end

variable [Keyed δ] {perform : Bool → ι → Act σ α}

theorem alone_echoes {told : Act (Chronicle σ ι) (Plan.Parts α)} {parts : Act σ (Plan.Parts α)} (echoes : Echoes told parts) :
    Echoes (Plan.alone told) (Plan.alone parts) := by
  refine Echoes.bind (Echoes.onStore Work.openUnit).outcome fun opened => ?_
  cases opened with
  | error e => exact .result (.ok _)
  | ok _ =>
    refine Echoes.bind echoes fun parts => Echoes.bind (Echoes.onStore _).outcome fun closed => ?_
    cases closed with
    | ok _ => exact .result (.ok _)
    | error e => exact .result (.ok _)

theorem joined_echoes {told : Act (Chronicle σ ι) (Plan.Parts α)} {parts : Act σ (Plan.Parts α)} (echoes : Echoes told parts) :
    Echoes (Plan.joined told) (Plan.joined parts) := by
  refine Echoes.bind echoes fun parts => ?_
  cases parts.failure with
  | some e => exact .result (.ok _)
  | none => exact .result (.ok _)

mutual

theorem carryOut_echoes (inSession : Bool) (plan : Plan ι) :
    Echoes (Plan.carryOut (note perform) inSession plan) (Plan.carryOut perform inSession plan) := by
  cases plan with
  | call call isDetached isCaught =>
    have performed : Echoes (note perform (inSession && !isDetached) call) (perform (inSession && !isDetached) call) :=
      fun _ => ⟨rfl, rfl⟩
    refine Echoes.bind performed.outcome fun result => ?_
    cases result with
    | ok a => exact .result (.ok _)
    | error e => exact .result (.ok _)
  | unit plans isDetached isCaught =>
    simp only [Plan.carryOut]
    split
    · exact joined_echoes (carryOutAll_echoes plans)
    · exact alone_echoes (carryOutAll_echoes plans)

theorem carryOutAll_echoes (plans : List (Plan ι)) :
    Echoes (Plan.carryOutAll (note perform) plans) (Plan.carryOutAll perform plans) := by
  cases plans with
  | nil => exact .result (.ok _)
  | cons plan plans =>
    simp only [Plan.carryOutAll]
    refine Echoes.bind (carryOut_echoes true plan) fun outcome => ?_
    have on : Echoes (do
          let rest ← Plan.carryOutAll (note perform) plans
          return { rest with outcomes := outcome :: rest.outcomes } : Act (Chronicle σ ι) (Plan.Parts α))
        (do
          let rest ← Plan.carryOutAll perform plans
          return { rest with outcomes := outcome :: rest.outcomes }) :=
      (carryOutAll_echoes plans).bind fun _ => .result (.ok _)
    cases outcome.failure? with
    | none => exact on
    | some e =>
      cases plan.isCaught with
      | true => exact on
      | false => exact .result (.ok _)

end

theorem deeds_prefix (plans : List (Plan ι)) (c : Chronicle σ ι) : c.deeds <+: (plans.foldl (live perform) c).deeds := by
  induction plans generalizing c with
  | nil => exact List.prefix_rfl
  | cons plan plans ih =>
    have first : c.deeds <+: (live perform c plan).deeds := ⟨_, rfl⟩
    exact first.trans (ih (live perform c plan))

/-- A run is the same whether it is told or not. -/
theorem lived_state (plans : List (Plan ι)) (s : σ) :
    (lived perform plans s).state = plans.foldl (fun s plan => (Plan.carryOut perform false plan s).2) s := by
  have same (plans : List (Plan ι)) (c : Chronicle σ ι) :
      (plans.foldl (live perform) c).state = plans.foldl (fun s plan => (Plan.carryOut perform false plan s).2) c.state := by
    induction plans generalizing c with
    | nil => rfl
    | cons plan plans ih =>
      have here : (live perform c plan).state = (Plan.carryOut perform false plan c.state).2 :=
        (carryOut_echoes false plan { c with deeds := [] }).2
      exact (ih (live perform c plan)).trans (congrArg (plans.foldl _) here)
  exact same plans { state := s }

end Chronicle
end Passbook
