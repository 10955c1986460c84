import Passbook.Proofs.Postings
import Passbook.Proofs.Statements
import Passbook.Proofs.Units

/-! Runs of the ledger: operations on their own or grouped in units, which hold other units and end at the first failure. Whatever
is run, the books that are kept are those that postings lead to. -/
namespace Passbook
open Books Time

/-- The operations that move money, and the passing of time. -/
inductive Move where
  | credit (account amount : Int)
  | transfer (sender receiver amount : Int)
  | createOrder (order account service amount : Int)
  | payOrder (order account service amount : Int)
  | cancelOrder (order account service amount : Int)
  | wait (time : Instant)

/-- A move, or a unit of steps that fails with the first of them that does. -/
inductive Step where
  | move (m : Move)
  | unit (steps : List Step)

namespace Move

def run (isJoined : Bool) : Move → LedgerWork (Option Answer)
  | .credit account amount => some <$> (Call.credit account amount).run isJoined
  | .transfer sender receiver amount => some <$> (Call.transfer sender receiver amount).run isJoined
  | .createOrder order account service amount => some <$> (Call.createOrder order account service amount).run isJoined
  | .payOrder order account service amount => some <$> (Call.payOrder order account service amount).run isJoined
  | .cancelOrder order account service amount => some <$> (Call.cancelOrder order account service amount).run isJoined
  | .wait time => (fun _ => none) <$> (Work.setClock (.universal time) : LedgerWork Unit)

end Move

namespace Step

mutual

def plan : Step → Plan Move
  | .move m => .call m false false
  | .unit steps => .unit (plans steps) false false

def plans : List Step → List (Plan Move)
  | [] => []
  | step :: steps => plan step :: plans steps

end

def run (step : Step) : LedgerWork (Plan.Outcome (Option Answer)) := Plan.carryOut Move.run false step.plan

def runAll (steps : List Step) (s : Store Database) : Store Database := steps.foldl (fun s step => (step.run s).2) s

end Step

namespace Store
variable {saved : Database} {b : Books} {s : Store Database}

def Works (saved : Database) (b : Books) (s : Store Database) : Prop :=
  ∃ time, s.InUse saved time ∧ s.content.schema = b.tables

def Keeps (b : Books) (s : Store Database) : Prop := ∃ time, s.Rests time ∧ s.content.schema = b.tables

/-- No session is open, the clock shows a time, and the books are sound. -/
structure Stands (time : Instant) (b : Books) (s : Store Database) : Prop where
  rests : s.Rests time
  books : s.content.schema = b.tables
  sound : b.Sound

/-- The books have come to `b`, inside the unit that began from a database or with no session open. -/
def Holds (saved : Option Database) (b : Books) (s : Store Database) : Prop :=
  match saved with
  | some saved => s.Works saved b
  | none => s.Keeps b

end Store

namespace Act
variable {α β : Type} {time : Instant} {b b₁ : Books} {condition : Prop} {answers : α → Prop}

theorem Turns.map {work : LedgerWork α} (f : α → β) (turns : work.Turns time b condition answers b₁) :
    (f <$> work : LedgerWork β).Turns time b condition (fun c => ∃ a, answers a ∧ c = f a) b₁ := by
  have mapped : (f <$> work : LedgerWork β).Turns time b (condition ∧ True) (fun c => ∃ a, answers a ∧ c = f a) b₁ := by
    apply Turns.bind turns
    intro a _ told
    exact (Turns.pure (f a)).restated Iff.rfl fun _ _ same => ⟨a, told, same⟩
  exact mapped.restated (by simp) fun _ _ told => told

theorem Settles.map {work : LedgerWork α} (f : α → β) (settles : work.Settles time b condition answers b₁) :
    (f <$> work : LedgerWork β).Settles time b condition (fun c => ∃ a, answers a ∧ c = f a) b₁ := by
  intro s rests books
  have settled := settles s rests books
  rcases ran : work s with ⟨e | a, t⟩
  · rw [ran] at settled
    have mapped : (f <$> work : LedgerWork β) s = (.error e, t) := bind_of_error ran
    rw [mapped]
    exact settled
  · rw [ran] at settled
    obtain ⟨held, told, rest⟩ := settled
    have mapped : (f <$> work : LedgerWork β) s = (.ok (f a), t) := bind_of_ok ran
    rw [mapped]
    exact ⟨held, ⟨a, told, rfl⟩, rest⟩

end Act

namespace Move
variable {α : Type} {saved : Database} {b : Books} {move : Move}

structure Posts (move : Move) (b : Books) : Prop where
  joined {saved : Database} {s : Store Database} (works : s.Works saved b) :
    match move.run true s with
    | (.ok _, t) => ∃ b', (b' = b ∨ Books.Posts b b') ∧ t.Works saved b'
    | (.error _, t) => ∃ time, t.InUse saved time
  alone {s : Store Database} (keeps : s.Keeps b) : ∃ b', (b' = b ∨ Books.Posts b b') ∧ (move.run false s).2.Keeps b'

theorem posts_of_operation {op : Operation α} {answer : α → Answer}
    (same : ∀ isJoined, move.run isJoined = some <$> Call.operate isJoined op answer)
    (turns : ∀ time, ∃ condition answers b₁, op.Turns time b condition answers b₁ ∧ (condition → Books.Posts b b₁)) :
    move.Posts b where
  joined {saved s} works := by
    obtain ⟨time, here, books⟩ := works
    obtain ⟨condition, answers, b₁, turned, posts⟩ := turns time
    have ran := ((turned.joined.map answer).map some) saved s here books
    rw [same]
    change match (some <$> answer <$> op.joined : LedgerWork _) s with
      | (.ok _, t) => ∃ b', (b' = b ∨ Books.Posts b b') ∧ t.Works saved b'
      | (.error _, t) => ∃ time, t.InUse saved time
    rcases ended : (some <$> answer <$> op.joined : LedgerWork _) s with ⟨e | a, t⟩
    · rw [ended] at ran
      exact ⟨time, ran.2⟩
    · rw [ended] at ran
      obtain ⟨held, _, still, turned⟩ := ran
      exact ⟨b₁, .inr (posts held), time, still, turned⟩
  alone {s} keeps := by
    obtain ⟨time, rests, books⟩ := keeps
    obtain ⟨condition, answers, b₁, turned, posts⟩ := turns time
    have ran := ((turned.alone.map answer).map some) s rests books
    rw [same]
    change ∃ b', (b' = b ∨ Books.Posts b b') ∧ ((some <$> answer <$> op.alone : LedgerWork _) s).2.Keeps b'
    rcases ended : (some <$> answer <$> op.alone : LedgerWork _) s with ⟨e | a, t⟩
    · rw [ended] at ran
      obtain ⟨_, still, unchanged⟩ := ran
      exact ⟨b, .inl rfl, time, still, unchanged⟩
    · rw [ended] at ran
      obtain ⟨held, _, still, turned⟩ := ran
      exact ⟨b₁, .inr (posts held), time, still, turned⟩

theorem posts (move : Move) (sound : b.Sound) : move.Posts b := by
  cases move with
  | credit account amount =>
    refine posts_of_operation (fun _ => rfl) fun time => ⟨_, _, _, Accounts.credit_turns sound, ?_⟩
    rintro ⟨⟨low, high⟩, fits, bounded⟩
    exact .credit time low high fits bounded
  | transfer sender receiver amount =>
    refine posts_of_operation (fun _ => rfl) fun time => ⟨_, _, _, Accounts.transfer_turns sound, ?_⟩
    rintro ⟨⟨⟨low, high⟩, apart⟩, from_, to_, funds, bounded⟩
    exact .transfer time low high apart from_ to_ funds bounded
  | createOrder order account service amount =>
    refine posts_of_operation (fun _ => rfl) fun time => ⟨_, _, _, Orders.create_turns sound, ?_⟩
    rintro ⟨⟨low, high⟩, ⟨owner, funds⟩, fits, served, new⟩
    exact .order time low high owner funds fits served new
  | payOrder order account service amount =>
    exact posts_of_operation (fun _ => rfl) fun time => ⟨_, _, _, Orders.pay_turns sound, .pay time⟩
  | cancelOrder order account service amount =>
    refine posts_of_operation (fun _ => rfl) fun time => ⟨_, _, _, Orders.cancel_turns sound, ?_⟩
    rintro ⟨pending, bounded⟩
    exact .cancel time pending bounded
  | wait time =>
    constructor
    · rintro saved s ⟨_, here, books⟩
      exact ⟨b, .inl rfl, time, ⟨here.busy, rfl⟩, books⟩
    · rintro s ⟨_, rests, books⟩
      exact ⟨b, .inl rfl, time, ⟨rests.idle, rfl⟩, books⟩

theorem keepsSession : Plan.KeepsSession Move.run Asked (fun _ => True) := by
  have waits (time : Instant) (isJoined : Bool) {R : Bool × Database → Bool × Database → Prop} [Progression R] :
      ((Move.wait time).run isJoined).Stays R :=
    Act.Leads.bind (Work.setClock_within _) fun _ => .ofExcept (.ok none)
  have told (call : Call) (isJoined : Bool) {R : Bool × Database → Bool × Database → Prop} [Progression R]
      (through : isJoined = true → ∀ x y, Passage Asked x y → R x y) :
      (some <$> call.run isJoined : LedgerWork (Option Answer)).Stays R :=
    Act.Leads.bind (Act.stays_iff_leads.mp (call.run_stays isJoined through)) fun answer => .ofExcept (.ok (some answer))
  constructor
  · intro move _
    cases move with
    | wait time => exact waits time true
    | _ => exact told _ true fun _ _ _ passage => passage
  · intro move _
    cases move with
    | wait time => exact waits time false
    | _ => exact told _ false (fun joined => nomatch joined)

end Move

namespace Step
variable {saved : Database} {b : Books} {s t : Store Database}

theorem runAll_nil (s : Store Database) : runAll [] s = s := rfl

theorem runAll_cons (step : Step) (steps : List Step) (s : Store Database) :
    runAll (step :: steps) s = runAll steps (step.run s).2 := rfl

mutual

theorem all_plan (step : Step) : step.plan.All (fun _ : Move => True) := by
  cases step with
  | move m => trivial
  | unit steps => exact all_plans steps

theorem all_plans (steps : List Step) : Plan.AllOf (fun _ : Move => True) (plans steps) := by
  cases steps with
  | nil => trivial
  | cons step steps => exact ⟨all_plan step, all_plans steps⟩

end

theorem plans_eq_call {steps : List Step} {m : Move} {isDetached isCaught : Bool} {rest : List (Plan Move)}
    (same : plans steps = .call m isDetached isCaught :: rest) :
    ∃ steps', steps = .move m :: steps' ∧ plans steps' = rest ∧ isDetached = false ∧ isCaught = false := by
  cases steps with
  | nil => cases same
  | cons step steps =>
    cases step with
    | unit parts => cases same
    | move m' =>
      cases same
      exact ⟨steps, rfl, rfl, rfl, rfl⟩

theorem plans_eq_unit {steps : List Step} {parts : List (Plan Move)} {isDetached isCaught : Bool} {rest : List (Plan Move)}
    (same : plans steps = .unit parts isDetached isCaught :: rest) :
    ∃ inner steps', plans inner = parts ∧ plans steps' = rest ∧ isDetached = false ∧ isCaught = false := by
  cases steps with
  | nil => cases same
  | cons step steps =>
    cases step with
    | move m => cases same
    | unit inner =>
      cases same
      exact ⟨inner, steps, rfl, rfl, rfl, rfl⟩

theorem reached_of_followed {known : (β : Type) → Statement Database β → Prop} {parts : List (Plan Move)} {outcomes}
    {failure : Option Failure} (followed : Plan.Follows Move.run known saved parts s outcomes failure t) (steps : List Step)
    (same : plans steps = parts) (reached : b.Reached) (works : s.Works saved b) :
    (∃ time, t.InUse saved time) ∧ (failure = none → ∃ b', b'.Reached ∧ t.Works saved b') := by
  -- By the order in which parts are followed; nothing that comes from steps is caught or detached.
  induction followed generalizing steps b with
  | done s =>
    have ⟨time, here, _⟩ := works
    exact ⟨⟨time, here⟩, fun _ => ⟨b, reached, works⟩⟩
  | @call m _ _ _ _ result _ _ _ _ here ran went on rest ih =>
    obtain ⟨steps', rfl, same', rfl, rfl⟩ := plans_eq_call same
    obtain ⟨answer, rfl⟩ : ∃ a, result = .ok a := on.resolve_left (by simp)
    have posted := (m.posts reached.sound).joined works
    rw [Bool.not_false] at ran
    rw [ran] at posted
    obtain ⟨b', isPosting, works'⟩ := posted
    exact ih steps' same' (reached.next isPosting) works'
  | @stop m _ _ _ _ _ here ran went =>
    obtain ⟨steps', rfl, same', rfl, _⟩ := plans_eq_call same
    have posted := (m.posts reached.sound).joined works
    rw [Bool.not_false] at ran
    rw [ran] at posted
    exact ⟨posted, fun never => nomatch never⟩
  | unit inner rest ihInner ihRest =>
    obtain ⟨steps₁, steps₂, same₁, same₂, _, _⟩ := plans_eq_unit same
    obtain ⟨b', reached', works'⟩ := (ihInner steps₁ same₁ reached works).2 rfl
    exact ihRest steps₂ same₂ reached' works'
  | caughtUnit inner rest ihInner ihRest =>
    obtain ⟨_, _, _, _, _, never⟩ := plans_eq_unit same
    cases never
  | stopUnit inner ih =>
    obtain ⟨steps₁, _, same₁, _, _, _⟩ := plans_eq_unit same
    exact ⟨(ih steps₁ same₁ reached works).1, fun never => nomatch never⟩
  | detachedUnit here rest ih =>
    obtain ⟨_, _, _, _, never, _⟩ := plans_eq_unit same
    cases never

theorem opened_works (keeps : s.Keeps b) : (Plan.opened s).Works s.content b := by
  obtain ⟨time, rests, books⟩ := keeps
  exact ⟨time, ⟨rfl, rests.now⟩, books⟩

theorem reached_inside (steps : List Step) (reached : b.Reached) (keeps : s.Keeps b)
    {outcomes : List (Plan.Outcome (Option Answer))}
    (ran : Plan.carryOutAll Move.run (plans steps) (Plan.opened s) = (.ok ⟨outcomes, none⟩, t)) :
    ∃ b', b'.Reached ∧ t.Works s.content b' := by
  obtain ⟨outcomes', failure, last, ran', followed, _⟩ :=
    Plan.carryOutAll_follows Move.keepsSession (plans steps) (all_plans steps) _ (Plan.opened_inSession s)
  rw [ran] at ran'
  cases ran'
  exact (reached_of_followed followed steps rfl reached (opened_works keeps)).2 rfl

theorem run_keeps (step : Step) (reached : b.Reached) (keeps : s.Keeps b) : ∃ b', b'.Reached ∧ (step.run s).2.Keeps b' := by
  cases step with
  | move m =>
    have ran : ((Step.move m).run s).2 = (m.run false s).2 := by
      unfold run
      rw [plan, Plan.carryOut_call, Bool.false_and]
    obtain ⟨b', isPosting, kept⟩ := (m.posts reached.sound).alone keeps
    rw [ran]
    exact ⟨b', reached.next isPosting, kept⟩
  | unit steps =>
    have ⟨time, rests, books⟩ := keeps
    have ends := Plan.unit_ends Move.keepsSession (plans steps) (all_plans steps) s rests.idle
    have outermost : (Step.unit steps).run = Plan.alone (Plan.carryOutAll Move.run (plans steps)) := by
      unfold run
      simp only [plan, Plan.carryOut, Bool.false_and, Bool.false_eq_true, if_false]
    rw [outermost]
    generalize Plan.alone (Plan.carryOutAll Move.run (plans steps)) s = result at ends
    cases ends with
    | committed followed sound =>
      obtain ⟨b', reached', time', here, books'⟩ := (reached_of_followed followed steps rfl reached (opened_works keeps)).2 rfl
      exact ⟨b', reached', time', ⟨rfl, here.now⟩, books'⟩
    | failed followed =>
      obtain ⟨time', here⟩ := (reached_of_followed followed steps rfl reached (opened_works keeps)).1
      exact ⟨b, reached, time', ⟨rfl, here.now⟩, books⟩
    | refused followed broken =>
      obtain ⟨time', here⟩ := (reached_of_followed followed steps rfl reached (opened_works keeps)).1
      exact ⟨b, reached, time', ⟨rfl, here.now⟩, books⟩

theorem run_of_turns {α : Type} {op : Operation α} {answer : α → Answer} {m : Move} {time : Instant} {b₁ : Books} {condition : Prop}
    {answers : α → Prop} (same : m.run false = some <$> answer <$> op.alone) (turns : op.Turns time b condition answers b₁)
    (held : condition) (posts : Posts b b₁) (stands : s.Stands time b) : ((Step.move m).run s).2.Stands time b₁ := by
  obtain ⟨_, t, answered, _, rests, books⟩ := ((turns.alone.map answer).map some).answered held stands.rests stands.books
  have ran : ((Step.move m).run s).2 = t := by
    unfold run
    rw [plan, Plan.carryOut_call, Bool.false_and, same]
    exact congrArg Prod.snd answered
  rw [ran]
  exact ⟨rests, books, stands.sound.posts posts⟩

section
variable {time : Instant} {id account service amount : Int}

theorem credit_stands (low : 0 ≤ amount) (high : amount ≤ maxInteger) (fits : fitsInteger id = true)
    (bounded : b.balanceOf id + amount ≤ maxInteger) (stands : s.Stands time b) :
    ((Step.move (.credit id amount)).run s).2.Stands time (b.credited id amount time) :=
  run_of_turns rfl (Accounts.credit_turns stands.sound) ⟨⟨low, high⟩, fits, bounded⟩ (.credit time low high fits bounded) stands

theorem createOrder_stands (low : 0 < amount) (high : amount ≤ maxInteger) (owner : b.Has account)
    (funds : amount ≤ b.balanceOf account)
    (fits : fitsInteger id = true) (served : fitsInteger service = true) (new : ∀ order ∈ b.orders, order.id ≠ id)
    (stands : s.Stands time b) :
    ((Step.move (.createOrder id account service amount)).run s).2.Stands time (b.ordered id account service amount time) :=
  run_of_turns rfl (Orders.create_turns stands.sound) ⟨⟨low, high⟩, ⟨owner, funds⟩, fits, served, new⟩
    (.order time low high owner funds fits served new) stands

theorem payOrder_stands (pending : b.Pending id account service amount) (stands : s.Stands time b) :
    ((Step.move (.payOrder id account service amount)).run s).2.Stands time (b.settled .paid time id) :=
  run_of_turns rfl (Orders.pay_turns stands.sound) pending (.pay time pending) stands

end

/-- Whatever steps are taken, the books that are kept are those that postings lead to. -/
theorem runAll_keeps (steps : List Step) (reached : b.Reached) (keeps : s.Keeps b) :
    ∃ b', b'.Reached ∧ (runAll steps s).Keeps b' := by
  induction steps generalizing b s with
  | nil => exact ⟨b, reached, keeps⟩
  | cons step steps ih =>
    obtain ⟨b', reached', kept⟩ := step.run_keeps reached keeps
    exact ih reached' kept

end Step
end Passbook
