import Passbook.Plan
import Passbook.Proofs.Sessions

/-! What a unit of work comes to. Its parts are told apart from the session around them: they are followed one after the other,
each from where the one before left off, and the unit either keeps what they came to or what was there before them. -/
namespace Passbook

/-- What an open session has come to: whether references are checked at commit only, and the content. -/
def Store.standing {δ : Type} (store : Store δ) : Bool × δ :=
  match store.status with
  | .busy _ deferred => (deferred, store.content)
  | _ => (false, store.content)

theorem Store.standing_of_busy {δ : Type} {store : Store δ} {saved : δ} {deferred : Bool}
    (busy : store.status = .busy saved deferred) : store.standing = (deferred, store.content) := by
  simp only [standing, busy]

namespace Plan
variable {σ δ ι α : Type}

mutual

def All (property : ι → Prop) : Plan ι → Prop
  | .call c _ _ => property c
  | .unit plans _ _ => AllOf property plans

def AllOf (property : ι → Prop) : List (Plan ι) → Prop
  | [] => True
  | plan :: plans => All property plan ∧ AllOf property plans

end

def Outcome.ofCall : Except Failure α → Outcome α
  | .ok a => .answered a
  | .error e => .failed e

section
variable [Holds σ δ] [Keyed δ]

/-- A session is open that would restore `saved`, and whatever would open another one fails for that and changes nothing. -/
structure InSession (saved : δ) (s : σ) : Prop where
  busy : ∃ deferred, (Holds.store s : Store δ).status = .busy saved deferred
  refuses : ∀ (β : Type) (w : Work δ β), Work.inUnit w (Holds.store s) = (.error Work.openSession, Holds.store s)

/-- What a call may make of a content: statements one after the other, or nothing at all if it is detached. -/
def Goes (known : (β : Type) → Statement δ β → Prop) (isDetached : Bool) (x y : Bool × δ) : Prop :=
  if isDetached then x = y else Passage known x y

/-- Plans followed one after the other, as if there were no units. A call that fails keeps what its statements have done; only a
failure that nobody catches ends what is around it. -/
inductive Follows (perform : Bool → ι → Act σ α) (known : (β : Type) → Statement δ β → Prop) (saved : δ) :
    List (Plan ι) → σ → List (Outcome α) → Option Failure → σ → Prop
  | done (s) : Follows perform known saved [] s [] none s
  | call {c isDetached isCaught plans s result t outcomes failure u}
      (here : InSession saved s) (ran : perform (!isDetached) c s = (result, t))
      (went : Goes known isDetached (Holds.store s : Store δ).standing (Holds.store t : Store δ).standing)
      (on : isCaught = true ∨ ∃ a, result = .ok a)
      (rest : Follows perform known saved plans t outcomes failure u) :
      Follows perform known saved (.call c isDetached isCaught :: plans) s (.ofCall result :: outcomes) failure u
  | stop {c isDetached plans s e t}
      (here : InSession saved s) (ran : perform (!isDetached) c s = (.error e, t))
      (went : Goes known isDetached (Holds.store s : Store δ).standing (Holds.store t : Store δ).standing) :
      Follows perform known saved (.call c isDetached false :: plans) s [.failed e] (some e) t
  | unit {parts isCaught plans s told t outcomes failure u}
      (inner : Follows perform known saved parts s told none t)
      (rest : Follows perform known saved plans t outcomes failure u) :
      Follows perform known saved (.unit parts false isCaught :: plans) s (.unit none told :: outcomes) failure u
  | caughtUnit {parts plans s told e t outcomes failure u}
      (inner : Follows perform known saved parts s told (some e) t)
      (rest : Follows perform known saved plans t outcomes failure u) :
      Follows perform known saved (.unit parts false true :: plans) s (.failed e :: outcomes) failure u
  | stopUnit {parts plans s told e t}
      (inner : Follows perform known saved parts s told (some e) t) :
      Follows perform known saved (.unit parts false false :: plans) s [.failed e] (some e) t
  | detachedUnit {parts isCaught plans s outcomes failure u}
      (here : InSession saved s)
      (rest : Follows perform known saved plans s outcomes failure u) :
      Follows perform known saved (.unit parts true isCaught :: plans) s
        (.unit (some Work.openSession) [] :: outcomes) failure u

def opened (s : σ) : σ :=
  Holds.putStore { (Holds.store s : Store δ) with status := .busy (Holds.store s : Store δ).content false } s

/-- Whether references that were to be checked at commit only are broken. -/
def BreaksReferences (s : σ) : Prop :=
  (Holds.store s : Store δ).standing.1 = true ∧ Keyed.orphaned (Holds.store s : Store δ).content = true

def ended (content : δ) (s : σ) : σ := Holds.putStore { (Holds.store s : Store δ) with content, status := .idle } s

/-- The three ends of a unit. It answers and keeps what its parts came to, one after the other; or it fails with the failure of
the part that nobody caught; or it fails at commit, as references are broken that were to be checked then. A unit that fails
leaves the content it found. In any case no session is open behind it. -/
inductive Ends (perform : Bool → ι → Act σ α) (known : (β : Type) → Statement δ β → Prop) (plans : List (Plan ι)) (s : σ) :
    Except Failure (Outcome α) × σ → Prop
  | committed {outcomes last}
      (followed : Follows perform known (Holds.store s : Store δ).content plans (opened s) outcomes none last)
      (sound : ¬ BreaksReferences last) :
      Ends perform known plans s (.ok (.unit none outcomes), ended (Holds.store last : Store δ).content last)
  | failed {outcomes e last}
      (followed : Follows perform known (Holds.store s : Store δ).content plans (opened s) outcomes (some e) last) :
      Ends perform known plans s (.ok (.unit (some e) outcomes), ended (Holds.store s : Store δ).content last)
  | refused {outcomes last}
      (followed : Follows perform known (Holds.store s : Store δ).content plans (opened s) outcomes none last)
      (broken : BreaksReferences last) :
      Ends perform known plans s
        (.ok (.unit (some Work.orphansAtCommit) outcomes), ended (Holds.store s : Store δ).content last)

variable {perform : Bool → ι → Act σ α} {known : (β : Type) → Statement δ β → Prop} {saved : δ} {allowed : ι → Prop}

theorem InSession.of_busy {s : σ} {deferred : Bool} (busy : (Holds.store s : Store δ).status = .busy saved deferred) :
    InSession saved s :=
  ⟨⟨deferred, busy⟩, fun _ _ => Work.inUnit_refused _ saved deferred busy⟩

/-- Calls that keep an open session open: joined to it they put statements, and detached from it they change nothing. -/
structure KeepsSession (perform : Bool → ι → Act σ α) (known : (β : Type) → Statement δ β → Prop)
    (allowed : ι → Prop) : Prop where
  joined (c : ι) : allowed c → (perform true c).Stays (Passage known)
  detached (c : ι) : allowed c → (perform false c).Stays (Eq : Bool × δ → Bool × δ → Prop)

theorem KeepsSession.call_goes (keeps : KeepsSession perform known allowed) {c : ι} (among : allowed c) (isDetached : Bool)
    {s : σ} (here : InSession saved s) :
    InSession saved (perform (!isDetached) c s).2 ∧
      Goes known isDetached (Holds.store s : Store δ).standing (Holds.store (perform (!isDetached) c s).2 : Store δ).standing := by
  obtain ⟨deferred, busy⟩ := here.busy
  cases isDetached with
  | true =>
    obtain ⟨later, still, same⟩ := keeps.detached c among s saved deferred busy
    rw [Store.standing_of_busy busy]
    simp only [Bool.not_true]
    rw [Store.standing_of_busy still]
    exact ⟨.of_busy still, same⟩
  | false =>
    obtain ⟨later, still, passage⟩ := keeps.joined c among s saved deferred busy
    rw [Store.standing_of_busy busy]
    simp only [Bool.not_false]
    rw [Store.standing_of_busy still]
    exact ⟨.of_busy still, passage⟩

structure Leads (perform : Bool → ι → Act σ α) (known : (β : Type) → Statement δ β → Prop) (saved : δ)
    (plan : Plan ι) (s : σ) (outcome : Outcome α) (t : σ) : Prop where
  here : InSession saved t
  on {plans outcomes failure u} (goesOn : outcome.failure? = none ∨ plan.isCaught = true)
    (rest : Follows perform known saved plans t outcomes failure u) :
    Follows perform known saved (plan :: plans) s (outcome :: outcomes) failure u
  stop {plans e} (fails : outcome.failure? = some e) (uncaught : plan.isCaught = false) :
    Follows perform known saved (plan :: plans) s [outcome] (some e) t


theorem carryOut_call (perform : Bool → ι → Act σ α) (inSession : Bool) (c : ι) (isDetached isCaught : Bool) (s : σ) :
    carryOut perform inSession (.call c isDetached isCaught) s =
      (.ok (.ofCall (perform (inSession && !isDetached) c s).1), (perform (inSession && !isDetached) c s).2) := by
  have settled : (perform (inSession && !isDetached) c).outcome s =
      (.ok (perform (inSession && !isDetached) c s).1, (perform (inSession && !isDetached) c s).2) := rfl
  unfold carryOut
  rw [Act.bind_of_ok settled]
  cases (perform (inSession && !isDetached) c s).1 <;> rfl

theorem call_leads (keeps : KeepsSession perform known allowed) {c : ι} (among : allowed c) (isDetached isCaught : Bool)
    {s : σ} (here : InSession saved s) :
    ∃ outcome t, carryOut perform true (.call c isDetached isCaught) s = (.ok outcome, t) ∧
      Leads perform known saved (.call c isDetached isCaught) s outcome t := by
  obtain ⟨still, went⟩ := keeps.call_goes among isDetached here
  rw [carryOut_call, Bool.true_and]
  rcases ran : perform (!isDetached) c s with ⟨e | a, t⟩
  · rw [ran] at still went
    refine ⟨.failed e, t, rfl, still, ?_, ?_⟩
    · intro plans outcomes failure u goesOn rest
      have caught : isCaught = true := by simpa [Outcome.failure?, Plan.isCaught] using goesOn
      exact .call here ran went (.inl caught) rest
    · intro plans e' fails uncaught
      cases fails
      cases uncaught
      exact .stop here ran went
  · rw [ran] at still went
    refine ⟨.answered a, t, rfl, still, ?_, ?_⟩
    · intro plans outcomes failure u goesOn rest
      exact .call here ran went (.inr ⟨a, rfl⟩) rest
    · intro plans e' fails uncaught
      cases fails

theorem joined_leads (isCaught : Bool) {parts : List (Plan ι)} {s t : σ} {told : List (Outcome α)} {failure : Option Failure}
    (ran : carryOutAll perform parts s = (.ok ⟨told, failure⟩, t))
    (followed : Follows perform known saved parts s told failure t) (here : InSession saved t) :
    ∃ outcome, joined (carryOutAll perform parts) s = (.ok outcome, t) ∧
      Leads perform known saved (.unit parts false isCaught) s outcome t := by
  unfold joined
  rw [Act.bind_of_ok ran]
  cases failure with
  | none =>
    refine ⟨.unit none told, rfl, here, ?_, ?_⟩
    · intro plans outcomes failure u goesOn rest
      exact .unit followed rest
    · intro plans e fails uncaught
      cases fails
  | some e =>
    refine ⟨.failed e, rfl, here, ?_, ?_⟩
    · intro plans outcomes failure u goesOn rest
      have caught : isCaught = true := by simpa [Outcome.failure?, Plan.isCaught] using goesOn
      subst caught
      exact .caughtUnit followed rest
    · intro plans e' fails uncaught
      cases fails
      cases uncaught
      exact .stopUnit followed

theorem alone_refused {parts : Act σ (Parts α)} [LawfulHolds σ] {s : σ} (here : InSession saved s) :
    alone parts s = (.ok (.unit (some Work.openSession) []), s) := by
  obtain ⟨deferred, busy⟩ := here.busy
  have refused : (Act.onStore Work.openUnit).outcome s = (.ok (.error Work.openSession), s) := by
    have opens : Work.openUnit (Holds.store s : Store δ) = (.error Work.openSession, Holds.store s) := by
      unfold Work.openUnit
      simp only [busy]
    simp only [Act.outcome, Act.onStore, Act.onPart, opens, LawfulHolds.putStore_store]
  unfold alone
  rw [Act.bind_of_ok refused]
  rfl

def closed (last : σ) (failure : Option Failure) : Except Failure Unit × Store δ :=
  Work.closeUnit (match failure with | some e => .error e | none => .ok ()) (Holds.store last)

theorem alone_eq {parts : Act σ (Parts α)} {s last : σ} {outcomes : List (Outcome α)} {failure : Option Failure}
    (idle : (Holds.store s : Store δ).status = .idle) (ran : parts (opened s) = (.ok ⟨outcomes, failure⟩, last)) :
    alone parts s = (.ok (.unit (match (closed last failure).1 with | .ok _ => none | .error e => some e) outcomes),
      Holds.putStore (closed last failure).2 last) := by
  have opens : (Act.onStore Work.openUnit).outcome s = (.ok (.ok ()), opened s) := by
    simp only [Act.outcome, Act.onStore, Act.onPart, Work.openUnit, idle, opened]
  have closes : (Act.onStore (Work.closeUnit (match failure with | some e => .error e | none => .ok ()))).outcome last =
      (.ok (closed last failure).1, Holds.putStore (closed last failure).2 last) := rfl
  unfold alone
  rw [Act.bind_of_ok opens]
  dsimp only
  rw [Act.bind_of_ok ran]
  refine (Act.bind_of_ok closes).trans ?_
  cases (closed last failure).1 <;> rfl

mutual

-- The two recursions are those of `carryOut` and `carryOutAll`; what they carry along is that the session is still open and
-- would restore the same content.
theorem carryOut_leads [LawfulHolds σ] (keeps : KeepsSession perform known allowed) (plan : Plan ι)
    (among : plan.All allowed) (s : σ) (here : InSession saved s) :
    ∃ outcome t, carryOut perform true plan s = (.ok outcome, t) ∧ Leads perform known saved plan s outcome t := by
  cases plan with
  | call c isDetached isCaught => exact call_leads keeps among isDetached isCaught here
  | unit parts isDetached isCaught =>
    cases isDetached with
    | true =>
      refine ⟨.unit (some Work.openSession) [], s, alone_refused here, here, ?_, ?_⟩
      · intro plans outcomes failure u goesOn rest
        exact .detachedUnit here rest
      · intro plans e fails uncaught
        cases fails
    | false =>
      obtain ⟨told, failure, t, ran, followed, still⟩ := carryOutAll_follows keeps parts among s here
      obtain ⟨outcome, settled, leads⟩ := joined_leads isCaught ran followed still
      exact ⟨outcome, t, settled, leads⟩

theorem carryOutAll_follows [LawfulHolds σ] (keeps : KeepsSession perform known allowed) (plans : List (Plan ι))
    (among : AllOf allowed plans) (s : σ) (here : InSession saved s) :
    ∃ outcomes failure t, carryOutAll perform plans s = (.ok ⟨outcomes, failure⟩, t) ∧
      Follows perform known saved plans s outcomes failure t ∧ InSession saved t := by
  cases plans with
  | nil => exact ⟨[], none, s, rfl, .done s, here⟩
  | cons plan plans =>
    obtain ⟨outcome, t, ran, leads⟩ := carryOut_leads keeps plan among.1 s here
    simp only [carryOutAll]
    rw [Act.bind_of_ok ran]
    have on (goesOn : outcome.failure? = none ∨ plan.isCaught = true) :
        ∃ outcomes failure u, (do
            let rest ← carryOutAll perform plans
            return { rest with outcomes := outcome :: rest.outcomes } : Act σ (Parts α)) t = (.ok ⟨outcomes, failure⟩, u) ∧
          Follows perform known saved (plan :: plans) s outcomes failure u ∧ InSession saved u := by
      obtain ⟨outcomes, failure, u, rest, followed, still⟩ := carryOutAll_follows keeps plans among.2 t leads.here
      refine ⟨outcome :: outcomes, failure, u, ?_, leads.on goesOn followed, still⟩
      rw [Act.bind_of_ok rest]
      rfl
    cases fails : outcome.failure? with
    | none => exact on (.inl fails)
    | some e =>
      cases caught : plan.isCaught with
      | true => exact on (.inr caught)
      | false => exact ⟨[outcome], some e, t, rfl, leads.stop fails caught, leads.here⟩

end

variable [LawfulHolds σ]

theorem opened_inSession (s : σ) : InSession (Holds.store s : Store δ).content (opened s) := by
  have busy : (Holds.store (opened s) : Store δ).status = .busy (Holds.store s : Store δ).content false := by
    unfold opened
    rw [LawfulHolds.store_putStore]
  exact .of_busy busy

theorem unit_ends (keeps : KeepsSession perform known allowed) (plans : List (Plan ι)) (among : AllOf allowed plans) (s : σ)
    (idle : (Holds.store s : Store δ).status = .idle) : Ends perform known plans s (alone (carryOutAll perform plans) s) := by
  obtain ⟨outcomes, failure, last, ran, followed, still⟩ := carryOutAll_follows keeps plans among (opened s) (opened_inSession s)
  obtain ⟨deferred, busy⟩ := still.busy
  rw [alone_eq idle ran]
  cases failure with
  | some e =>
    have ends : closed last (some e) =
        (.error e, { (Holds.store last : Store δ) with content := (Holds.store s : Store δ).content, status := .idle }) := by
      simp only [closed, Work.closeUnit, Work.rollback, busy]
    rw [ends]
    exact .failed followed
  | none =>
    have standing := Store.standing_of_busy busy
    cases broken : deferred && Keyed.orphaned (Holds.store last : Store δ).content with
    | true =>
      have ends : closed last none = (.error Work.orphansAtCommit,
          { (Holds.store last : Store δ) with content := (Holds.store s : Store δ).content, status := .idle }) := by
        simp only [closed, Work.closeUnit, Work.commit, busy, broken, if_true]
      have breaks : BreaksReferences last := by
        rw [Bool.and_eq_true] at broken
        exact ⟨by rw [standing, broken.1], broken.2⟩
      rw [ends]
      exact .refused followed breaks
    | false =>
      have ends : closed last none = (.ok (), { (Holds.store last : Store δ) with status := .idle }) := by
        simp only [closed, Work.closeUnit, Work.commit, busy, broken, Bool.false_eq_true, if_false]
      have sound : ¬ BreaksReferences last := by
        rintro ⟨checked, orphaned⟩
        rw [standing] at checked
        dsimp only at checked
        rw [checked, orphaned] at broken
        cases broken
      rw [ends]
      exact .committed followed sound

omit [LawfulHolds σ] in
theorem carryOutAll_append {parts : List (Plan ι)} (rest : List (Plan ι)) {s t : σ} {outcomes : List (Outcome α)}
    (ran : carryOutAll perform parts s = (.ok ⟨outcomes, none⟩, t)) :
    carryOutAll perform (parts ++ rest) s =
      ((carryOutAll perform rest t).1.map fun later => { later with outcomes := outcomes ++ later.outcomes },
        (carryOutAll perform rest t).2) := by
  induction parts generalizing s outcomes with
  | nil =>
    cases ran
    simp only [List.nil_append]
    rcases carryOutAll perform rest t with ⟨e | later, u⟩ <;> rfl
  | cons plan parts ih =>
    simp only [carryOutAll] at ran
    obtain ⟨outcome, u, began, ran⟩ := Act.bind_eq_ok.mp ran
    have goesOn (ran : (do
          let rest ← carryOutAll perform parts
          return { rest with outcomes := outcome :: rest.outcomes } : Act σ (Parts α)) u = (.ok ⟨outcomes, none⟩, t)) :
        (do
          let rest ← carryOutAll perform (parts ++ rest)
          return { rest with outcomes := outcome :: rest.outcomes } : Act σ (Parts α)) u =
            ((carryOutAll perform rest t).1.map fun later => { later with outcomes := outcomes ++ later.outcomes },
              (carryOutAll perform rest t).2) := by
      obtain ⟨⟨told, failure⟩, v, went, ended⟩ := Act.bind_eq_ok.mp ran
      cases ended
      have both := ih went
      rcases later : carryOutAll perform rest t with ⟨e | later, w⟩ <;> rw [later] at both
      · exact Act.bind_of_error both
      · exact Act.bind_of_ok both
    simp only [List.cons_append, carryOutAll]
    rw [Act.bind_of_ok began]
    cases fails : outcome.failure? with
    | none =>
      rw [fails] at ran
      exact goesOn ran
    | some e =>
      cases caught : plan.isCaught with
      | true =>
        rw [fails, caught] at ran
        exact goesOn ran
      | false =>
        rw [fails, caught] at ran
        cases ran

/-- A call that fails without having changed anything, and is caught, makes no difference to what its unit leaves. -/
theorem unit_without (keeps : KeepsSession perform known allowed) {parts rest : List (Plan ι)} (among : AllOf allowed rest) {c : ι}
    {s t : σ} {outcomes : List (Outcome α)} {e : Failure} (idle : (Holds.store s : Store δ).status = .idle)
    (ran : carryOutAll perform parts (opened s) = (.ok ⟨outcomes, none⟩, t)) (here : InSession saved t)
    (failed : perform true c t = (.error e, t)) (isDetached isCaught : Bool) :
    (carryOut perform false (.unit (parts ++ .call c false true :: rest) isDetached isCaught) s).2 =
      (carryOut perform false (.unit (parts ++ rest) isDetached isCaught) s).2 := by
  obtain ⟨told, failure, u, went, -, -⟩ := carryOutAll_follows keeps rest among t here
  have called : carryOut perform true (.call c false true) t = (.ok (.failed e), t) := by
    rw [carryOut_call, Bool.true_and, Bool.not_false, failed]
    rfl
  have tried : carryOutAll perform (.call c false true :: rest) t = (.ok ⟨.failed e :: told, failure⟩, u) := by
    simp only [carryOutAll]
    rw [Act.bind_of_ok called]
    exact Act.bind_of_ok went
  have with_ := carryOutAll_append (.call c false true :: rest) ran
  have without := carryOutAll_append rest ran
  rw [tried] at with_
  rw [went] at without
  simp only [carryOut, Bool.false_and, Bool.false_eq_true, if_false]
  rw [alone_eq idle with_, alone_eq idle without]

end

end Plan
end Passbook
