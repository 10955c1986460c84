import Passbook.Proofs.Chronicles
import Passbook.Proofs.Errands

/-! What a run can be relied on to keep, told by what a single call keeps. A property holds of the content while the clock shows a
time and references are checked at once or at commit only; and contents grow, in a way that depends on the calls that answered.
All this may rest on how the clock moves. -/
namespace Passbook
open Time

/-- Where a reading lies on the line of universal time, in microseconds since the start of year 1; it may lie before it. -/
def Time.Reading.moment (r : Reading) : Int := r.wall.micros - (r.offset.map Offset.micros).getD 0

theorem Time.Reading.moment_of_instant {r : Reading} {time : Instant} (shown : r.instant = .ok time) : (time.micros : Int) = r.moment := by
  unfold Reading.instant at shown
  unfold Reading.moment
  cases offset : r.offset with
  | none =>
    rw [offset] at shown
    cases shown
    exact (Int.sub_zero _).symm
  | some o =>
    simp only [offset, Instant.ofMicros?] at shown
    split at shown
    · rename_i i found
      cases shown
      split at found
      · rename_i inside
        cases found
        exact Int.toNat_of_nonneg inside.1
      · cases found
    · cases shown

def Time.Reading.NotAfter (r r' : Reading) : Prop := r.moment ≤ r'.moment

structure Store.Brings {δ : Type} (P : Reading → Bool → δ → Prop) (G : δ → δ → Prop) (s t : Store δ) : Prop where
  inside : ∀ saved deferred, s.status = .busy saved deferred → P s.now deferred s.content →
    ∃ later, t.status = .busy saved later ∧ P t.now later t.content ∧ G s.content t.content
  alone : s.status = .idle → P s.now false s.content → t.status = .idle ∧ P t.now false t.content ∧ G s.content t.content

theorem Store.Brings.trans {δ : Type} {P : Reading → Bool → δ → Prop} {G G' G'' : δ → δ → Prop} {s t u : Store δ}
    (through : ∀ {c c' c''}, G c c' → G' c' c'' → G'' c c'') (first : Brings P G s t)
    (rest : Brings P G' t u) : Brings P G'' s u := by
  constructor
  · intro saved deferred busy holds
    obtain ⟨d, busy', holds', grown⟩ := first.inside saved deferred busy holds
    obtain ⟨d', busy'', holds'', grown'⟩ := rest.inside saved d busy' holds'
    exact ⟨d', busy'', holds'', through grown grown'⟩
  · intro idle holds
    obtain ⟨idle', holds', grown⟩ := first.alone idle holds
    obtain ⟨idle'', holds'', grown'⟩ := rest.alone idle' holds'
    exact ⟨idle'', holds'', through grown grown'⟩

def Store.Carries {δ : Type} (K : Reading → Reading → Prop) (P : Reading → Bool → δ → Prop) (G : δ → δ → Prop)
    (s t : Store δ) : Prop :=
  K s.now t.now → Brings P G s t

/-- A relation `K` between readings of the clock, a property `P` that holds between calls, and growth `G` told by the calls that
answered, such that every allowed call carries them on, commits keep what they have come to, and so does the passing of time. -/
structure Course {σ δ ι α : Type} [Holds σ δ] [Keyed δ] (perform : Bool → ι → Act σ α) (allowed : ι → Prop)
    (K : Reading → Reading → Prop) (P : Reading → Bool → δ → Prop) (G : List ι → δ → δ → Prop) : Prop where
  stands (r : Reading) : K r r
  moves {r r' r'' : Reading} : K r r' → K r' r'' → K r r''
  nothing (content : δ) : G [] content content
  more {calls calls' : List ι} {c c' c'' : δ} : G calls c c' → G calls' c' c'' → G (calls ++ calls') c c''
  later {r r' : Reading} {content : δ} : K r r' → P r false content → P r' false content
  commit {r : Reading} {deferred : Bool} {content : δ} : P r deferred content → (deferred && Keyed.orphaned content) = false →
    P r false content
  call (isJoined : Bool) {c : ι} (among : allowed c) (s : σ) :
    Store.Carries K P (G (if (perform isJoined c s).1.isOk then [c] else [])) (Holds.store s) (Holds.store (perform isJoined c s).2)

namespace Deed
variable {ι : Type} {deeds deeds' : List (Deed ι)}

theorem answers_append : answers (deeds ++ deeds') = answers deeds ++ answers deeds' := by
  simp only [answers, List.filter_append, List.map_append]

theorem answers_singleton (deed : Deed ι) : answers [deed] = if deed.answered then [deed.call] else [] := by
  cases answered : deed.answered <;> simp [answers, answered]

end Deed

namespace Chronicle
variable {σ δ ι : Type} [Holds σ δ]

def Timed (K : Reading → Reading → Prop) (c : Chronicle σ ι) : Prop := ∀ deed ∈ c.deeds, K deed.before deed.after

/-- A unit is open that began from `saved` at `start`, and its calls have gone on from there as they should. -/
def Inside (K : Reading → Reading → Prop) (P : Reading → Bool → δ → Prop) (G : List ι → δ → δ → Prop) (saved : δ)
    (start : Reading) (c : Chronicle σ ι) : Prop :=
  ∃ deferred, (Holds.store c : Store δ).status = .busy saved deferred ∧ P c.now deferred c.content ∧ K start c.now ∧
    G (Deed.answers c.deeds) saved c.content

structure Continues (P : Reading → Bool → δ → Prop) (G : List ι → δ → δ → Prop) (c c' : Chronicle σ ι) : Prop where
  idle : (Holds.store c' : Store δ).status = .idle
  holds : P c'.now false c'.content
  kept : ∃ calls, c'.kept = c.kept ++ calls ∧ G calls c.content c'.content

end Chronicle

namespace Course
variable {σ δ ι α : Type} [Holds σ δ] [Keyed δ] {perform : Bool → ι → Act σ α}
  {known : (β : Type) → Statement δ β → Prop}
  {allowed : ι → Prop} {K : Reading → Reading → Prop} {P : Reading → Bool → δ → Prop} {G : List ι → δ → δ → Prop}
  {saved : δ} {start : Reading}

omit [Keyed δ] in
theorem note_keepsSession (keeps : Plan.KeepsSession perform known allowed) :
    Plan.KeepsSession (Chronicle.note perform) known allowed where
  joined c among s := keeps.joined c among s.state
  detached c among s := keeps.detached c among s.state

theorem note_inside (course : Course perform allowed K P G) (isJoined : Bool) {c : ι} (among : allowed c) {s : Chronicle σ ι}
    (inside : s.Timed K → s.Inside K P G saved start) (timed : (Chronicle.note perform isJoined c s).2.Timed K) :
    (Chronicle.note perform isJoined c s).2.Inside K P G saved start := by
  have before : s.Timed K := fun deed done => timed deed (List.mem_append_left _ done)
  have moved : K s.now (Chronicle.note perform isJoined c s).2.now := timed _ (List.mem_append_right _ (List.mem_singleton_self _))
  obtain ⟨deferred, busy, holds, since, grown⟩ := inside before
  obtain ⟨later, still, holds', grown'⟩ := (course.call isJoined among s.state moved).inside saved deferred busy holds
  refine ⟨later, still, holds', course.moves since moved, ?_⟩
  have answered : Deed.answers (Chronicle.note perform isJoined c s).2.deeds =
      Deed.answers s.deeds ++ if (perform isJoined c s.state).1.isOk then [c] else [] := by
    rw [← Deed.answers_singleton ⟨c, _, s.now, (Chronicle.note perform isJoined c s).2.now⟩, ← Deed.answers_append]
    rfl
  rw [answered]
  exact course.more grown grown'

theorem follows_inside (course : Course perform allowed K P G) {plans : List (Plan ι)} {s u : Chronicle σ ι} {outcomes}
    {failure : Option Failure} (followed : Plan.Follows (Chronicle.note perform) known saved plans s outcomes failure u)
    (among : Plan.AllOf allowed plans) (inside : s.Timed K → s.Inside K P G saved start) (timed : u.Timed K) :
    u.Inside K P G saved start := by
  -- What is carried along is an implication, since only the last state tells how the clock has moved all the while.
  suffices goes : u.Timed K → u.Inside K P G saved start from goes timed
  clear timed
  induction followed with
  | done s => exact inside
  | @call c isDetached _ _ _ _ _ _ _ _ here ran went on rest ih =>
    refine ih among.2 fun timed => ?_
    have noted := course.note_inside (!isDetached) among.1 inside
    rw [ran] at noted
    exact noted timed
  | @stop c isDetached _ _ _ _ here ran went =>
    have noted := course.note_inside (!isDetached) among.1 inside
    rw [ran] at noted
    exact noted
  | unit inner rest ihInner ihRest => exact ihRest among.2 (ihInner among.1 inside)
  | caughtUnit inner rest ihInner ihRest => exact ihRest among.2 (ihInner among.1 inside)
  | stopUnit inner ih => exact ih among.1 inside
  | detachedUnit here rest ih => exact ih among.2 inside

theorem live_call (course : Course perform allowed K P G) {c : ι} (isDetached isCaught : Bool) (among : allowed c)
    {s : Chronicle σ ι} (idle : (Holds.store s : Store δ).status = .idle) (holds : P s.now false s.content)
    (timed : (Chronicle.live perform s (.call c isDetached isCaught)).Timed K) :
    s.Continues P G (Chronicle.live perform s (.call c isDetached isCaught)) := by
  let deed : Deed ι := ⟨c, (perform false c s.state).1.isOk, s.now, (Holds.store (perform false c s.state).2 : Store δ).now⟩
  have ran : Chronicle.live perform s (.call c isDetached isCaught) =
      ⟨(perform false c s.state).2, s.deeds ++ [deed], s.kept ++ Deed.answers [deed]⟩ := by
    have lasts (result : Except Failure α) : Chronicle.isUndone (.ok (.ofCall result)) = false := by cases result <;> rfl
    unfold Chronicle.live
    rw [Plan.carryOut_call, Bool.false_and]
    simp only [lasts, Bool.false_eq_true, if_false]
    rfl
  rw [ran] at timed ⊢
  have moved : K deed.before deed.after := timed deed (List.mem_append_right _ (List.mem_singleton_self deed))
  obtain ⟨idle', holds', grown⟩ := (course.call false among s.state moved).alone idle holds
  rw [← Deed.answers_singleton deed] at grown
  exact ⟨idle', holds', _, rfl, grown⟩

variable [LawfulHolds σ]

omit [Keyed δ] in
theorem ended_continues {s last : Chronicle σ ι} {content : δ} {calls : List ι} (deeds : List (Deed ι))
    (holds : P last.now false content) (grown : G calls s.content content) :
    s.Continues P G ⟨(Plan.ended content last).state, deeds, s.kept ++ calls⟩ := by
  have store : (Holds.store (Plan.ended content last).state : Store δ) =
      { (Holds.store last : Store δ) with content, status := .idle } := LawfulHolds.store_putStore _ _
  constructor
  · exact congrArg Store.status store
  · unfold Chronicle.now Chronicle.content
    rw [store]
    exact holds
  · refine ⟨calls, rfl, ?_⟩
    unfold Chronicle.content at grown ⊢
    rw [store]
    exact grown

theorem opened_inside (course : Course perform allowed K P G) {s : Chronicle σ ι} (holds : P s.now false s.content)
    (new : s.deeds = []) : (Plan.opened s).Inside K P G s.content s.now := by
  have store : (Holds.store (Plan.opened s).state : Store δ) =
      { (Holds.store s : Store δ) with status := .busy (Holds.store s : Store δ).content false } := LawfulHolds.store_putStore _ _
  have none : (Plan.opened s).deeds = [] := new
  unfold Chronicle.Inside Chronicle.now Chronicle.content
  rw [none, store]
  exact ⟨false, congrArg Store.status store, holds, course.stands _, course.nothing _⟩

theorem live_unit (course : Course perform allowed K P G) (keeps : Plan.KeepsSession perform known allowed)
    {plans : List (Plan ι)} (isDetached isCaught : Bool) (among : Plan.AllOf allowed plans) {s : Chronicle σ ι}
    (idle : (Holds.store s : Store δ).status = .idle) (holds : P s.now false s.content)
    (timed : (Chronicle.live perform s (.unit plans isDetached isCaught)).Timed K) :
    s.Continues P G (Chronicle.live perform s (.unit plans isDetached isCaught)) := by
  have ends := Plan.unit_ends (note_keepsSession keeps) plans among { s with deeds := [] } idle
  have opened := course.opened_inside (s := { s with deeds := [] }) holds rfl
  have outermost : Plan.carryOut (Chronicle.note perform) false (.unit plans isDetached isCaught) =
      Plan.alone (Plan.carryOutAll (Chronicle.note perform) plans) := by
    simp only [Plan.carryOut, Bool.false_and, Bool.false_eq_true, if_false]
  unfold Chronicle.live at timed ⊢
  rw [outermost] at timed ⊢
  generalize Plan.alone (Plan.carryOutAll (Chronicle.note perform) plans) { s with deeds := [] } = result at ends timed ⊢
  have inside {outcomes : List (Plan.Outcome α)} {failure : Option Failure} {last : Chronicle σ ι}
      (followed : Plan.Follows (Chronicle.note perform) known s.content plans (Plan.opened { s with deeds := [] }) outcomes failure last)
      (done : ∀ deed ∈ s.deeds ++ last.deeds, K deed.before deed.after) : last.Inside K P G s.content s.now :=
    course.follows_inside followed among (fun _ => opened) fun deed among => done deed (List.mem_append_right _ among)
  cases ends with
  | @committed _ last followed sound =>
    obtain ⟨deferred, busy, holds', _, grown⟩ := inside followed timed
    refine ended_continues _ (course.commit holds' ?_) grown
    cases broken : deferred && Keyed.orphaned last.content with
    | false => exact broken
    | true =>
      have standing := Store.standing_of_busy busy
      rw [Bool.and_eq_true] at broken
      exact absurd ⟨by rw [standing]; exact broken.1, broken.2⟩ sound
  | failed followed =>
    obtain ⟨_, _, _, since, _⟩ := inside followed timed
    exact ended_continues _ (course.later since holds) (course.nothing s.content)
  | refused followed broken =>
    obtain ⟨_, _, _, since, _⟩ := inside followed timed
    exact ended_continues _ (course.later since holds) (course.nothing s.content)

theorem live (course : Course perform allowed K P G) (keeps : Plan.KeepsSession perform known allowed) (plan : Plan ι)
    (among : plan.All allowed) {s : Chronicle σ ι} (idle : (Holds.store s : Store δ).status = .idle) (holds : P s.now false s.content)
    (timed : (Chronicle.live perform s plan).Timed K) : s.Continues P G (Chronicle.live perform s plan) := by
  cases plan with
  | call c isDetached isCaught => exact course.live_call isDetached isCaught among idle holds timed
  | unit plans isDetached isCaught => exact course.live_unit keeps isDetached isCaught among idle holds timed

theorem run (course : Course perform allowed K P G) (keeps : Plan.KeepsSession perform known allowed) (plans : List (Plan ι))
    (among : Plan.AllOf allowed plans) {s : Chronicle σ ι} (idle : (Holds.store s : Store δ).status = .idle)
    (holds : P s.now false s.content)
    (timed : (plans.foldl (Chronicle.live perform) s).Timed K) : s.Continues P G (plans.foldl (Chronicle.live perform) s) := by
  induction plans generalizing s with
  | nil => exact ⟨idle, holds, [], (List.append_nil _).symm, course.nothing _⟩
  | cons plan plans ih =>
    have before : (Chronicle.live perform s plan).Timed K :=
      fun deed done => timed deed ((Chronicle.deeds_prefix plans (Chronicle.live perform s plan)).subset done)
    have first := course.live keeps plan among.1 idle holds before
    have rest := ih among.2 first.idle first.holds timed
    obtain ⟨calls, kept, grown⟩ := first.kept
    obtain ⟨calls', kept', grown'⟩ := rest.kept
    refine ⟨rest.idle, rest.holds, calls ++ calls', ?_, course.more grown grown'⟩
    rw [← List.append_assoc, ← kept]
    exact kept'

end Course
/-- What single statements keep, put while the clock shows a time, and what is kept where a session begins to check its references
at commit only and where it is committed. -/
structure Law {δ : Type} [Keyed δ] (known : Reading → (β : Type) → Statement δ β → Prop) (P : Reading → Bool → δ → Prop)
    (G : δ → δ → Prop) : Prop where
  nothing (content : δ) : G content content
  more {c c' c'' : δ} : G c c' → G c' c'' → G c c''
  statement {r : Reading} {deferred : Bool} {c c' : δ} {β : Type} {statement : Statement δ β} {a : β} : known r β statement →
    statement deferred c = .ok (a, c') → P r deferred c → P r deferred c' ∧ G c c'
  deferring {r : Reading} {deferred : Bool} {content : δ} : P r deferred content → P r true content
  commit {r : Reading} {deferred : Bool} {content : δ} : P r deferred content → (deferred && Keyed.orphaned content) = false →
    P r false content

namespace Law
variable {δ : Type} [Keyed δ] {known : Reading → (β : Type) → Statement δ β → Prop} {P : Reading → Bool → δ → Prop}
  {G : δ → δ → Prop} {r : Reading} {s t : Store δ}

theorem passage (law : Law known P G) {x y : Bool × δ} (goes : Passage (known r) x y) (holds : P r x.1 x.2) :
    P r y.1 y.2 ∧ G x.2 y.2 := by
  induction goes with
  | done x => exact ⟨holds, law.nothing x.2⟩
  | carried statement a among answered rest ih =>
    obtain ⟨holds', grown⟩ := law.statement among answered holds
    obtain ⟨holds'', grown'⟩ := ih holds'
    exact ⟨holds'', law.more grown grown'⟩
  | refused statement reason among answered rest ih => exact ih holds
  | deferring rest ih => exact ih (law.deferring holds)

theorem commits (law : Law known P G) {c c' : δ} (goes : Commits (known r) c c') (holds : P r false c) : P r false c' ∧ G c c' := by
  induction goes with
  | none content => exact ⟨holds, law.nothing content⟩
  | unit passage sound rest ih =>
    obtain ⟨inside, grown⟩ := law.passage passage holds
    obtain ⟨holds', grown'⟩ := ih (law.commit inside sound)
    exact ⟨holds', law.more grown grown'⟩

theorem performs (law : Law known P G) (performs : Store.Performs (known s.now) s.now s t) : Store.Brings P G s t := by
  obtain ⟨here, within, commits⟩ := performs rfl
  constructor
  · intro saved deferred busy holds
    obtain ⟨later, still, passage⟩ := within saved deferred busy
    rw [here]
    exact ⟨later, still, law.passage passage holds⟩
  · intro idle holds
    obtain ⟨idle', commits⟩ := commits idle
    rw [here]
    exact ⟨idle', law.commits commits holds⟩

theorem leads {α : Type} {w : Work δ α} (law : Law known P G) (performs : ∀ now, w.Leads (Store.Performs (known now) now)) :
    w.Leads (Store.Brings P G) :=
  fun s => law.performs (performs s.now s)

theorem inUnit_answers {α : Type} {w : Work δ α} {G' : δ → δ → Prop} (law : Law known P G)
    (answers : w.Answers (Store.Brings P G')) : (Work.inUnit w).Answers (Store.Brings P G') := by
  intro s a t ran
  constructor
  · intro saved deferred busy
    rw [Work.inUnit_refused s saved deferred busy] at ran
    cases ran
  · intro idle holds
    change s.status = .idle at idle
    rw [Work.inUnit_eq idle] at ran
    rcases inner : w { s with status := .busy s.content false } with ⟨e | a', t'⟩
    · rw [inner] at ran
      dsimp only [Work.closeUnit, Work.rollback] at ran
      split at ran <;> cases ran
    · rw [inner] at ran
      obtain ⟨deferred, busy, holds', grown⟩ := (answers _ a' t' inner).inside s.content false rfl holds
      change t'.status = .busy s.content deferred at busy
      rcases Work.closeUnit_cases (.ok a' : Except Failure α) busy with ⟨ends, sound, _⟩ | ⟨_, e, failed⟩
      · rw [ran] at ends
        cases ends
        exact ⟨rfl, law.commit holds' sound, grown⟩
      · rw [ran] at failed
        cases failed

end Law

theorem Law.advances {free : Direct → Prop} {K : Reading → Reading → Prop} {P : Reading → Bool → Database → Prop}
    {G : Database → Database → Prop}
    (law : Law (Given free) P G)
    (later : ∀ {r r' : Reading} {deferred : Bool} {c : Database}, K r r' → P r deferred c → P r' deferred c)
    {s t : Store Database} (advances : Store.Advances free s t) : Store.Carries K P G s t := by
  intro moved
  rcases advances with performs | ⟨now, rfl⟩
  · exact law.performs performs
  · constructor
    · intro saved deferred busy holds
      exact ⟨deferred, busy, later moved holds, law.nothing _⟩
    · intro idle holds
      exact ⟨idle, later moved holds, law.nothing _⟩

namespace Host
variable {τ : Type} [Add τ] [Sub τ] [LT τ] [DecidableLT τ] [Reach τ] {free : Direct → Prop}

def runAll (plans : List (Plan (Errand τ))) (h : Host τ) : Host τ :=
  plans.foldl (fun h plan => (Plan.carryOut run false plan h).2) h

theorem keepsOrdinary : Plan.KeepsSession (run : Bool → Errand τ → HostAct τ Reply) Asked (Errand.Ordinary free) := by
  have kept (errand : Errand τ) (ordinary : errand.Ordinary free) : errand.KeepsStore := by
    cases errand <;> trivial
  constructor
  · exact fun errand ordinary => keepsSession.joined errand (kept errand ordinary)
  · exact fun errand ordinary => keepsSession.detached errand (kept errand ordinary)

theorem course_of_law {K : Reading → Reading → Prop} {P : Reading → Bool → Database → Prop} {G : Database → Database → Prop}
    (law : Law (Given free) P G) (stands : ∀ r, K r r) (moves : ∀ {r r' r''}, K r r' → K r' r'' → K r r'')
    (later : ∀ {r r' : Reading} {deferred : Bool} {c : Database}, K r r' → P r deferred c → P r' deferred c) :
    Course (run : Bool → Errand τ → HostAct τ Reply) (Errand.Ordinary free) K P (fun _ => G) where
  stands := stands
  moves := moves
  nothing := law.nothing
  more := law.more
  later := later
  commit := law.commit
  call isJoined errand among h := law.advances later (run_advances isJoined errand among h)

theorem runAll_continues {K : Reading → Reading → Prop} {P : Reading → Bool → Database → Prop}
    {G : List (Errand τ) → Database → Database → Prop}
    (course : Course (run : Bool → Errand τ → HostAct τ Reply) (Errand.Ordinary free) K P G) (before after : List (Plan (Errand τ)))
    (ordinary : Plan.AllOf (Errand.Ordinary free) before ∧ Plan.AllOf (Errand.Ordinary free) after) (h : Host τ)
    (idle : h.system.store.status = .idle) (holds : P h.system.store.now false h.system.store.content)
    (timed : (Chronicle.lived run (before ++ after) h).Timed K) :
    (Chronicle.lived run before h).state = runAll before h ∧
      (Chronicle.lived run (before ++ after) h).state = runAll (before ++ after) h ∧
      Chronicle.Continues P G { state := h } (Chronicle.lived run before h) ∧
      (Chronicle.lived run before h).Continues P G (Chronicle.lived run (before ++ after) h) := by
  have both : Chronicle.lived run (before ++ after) h = after.foldl (Chronicle.live run) (Chronicle.lived run before h) :=
    List.foldl_append
  rw [both] at timed ⊢
  have first := course.run keepsOrdinary before ordinary.1 (s := { state := h }) idle holds fun deed done =>
    timed deed ((Chronicle.deeds_prefix after (Chronicle.lived run before h)).subset done)
  have rest := course.run keepsOrdinary after ordinary.2 first.idle first.holds timed
  exact ⟨Chronicle.lived_state before h, both ▸ Chronicle.lived_state (before ++ after) h, first, rest⟩

/-- What statements keep whatever the clock shows, any run of ordinary errands does. -/
theorem runAll_keeps {P : Bool → Database → Prop} {G : Database → Database → Prop} (law : Law (Given free) (fun _ => P) G)
    {plans : List (Plan (Errand τ))} (ordinary : Plan.AllOf (Errand.Ordinary free) plans) {h : Host τ}
    (idle : h.system.store.status = .idle) (holds : P false h.system.store.content) :
    (runAll plans h).system.store.status = .idle ∧ P false (runAll plans h).system.store.content := by
  have course : Course (run : Bool → Errand τ → HostAct τ Reply) (Errand.Ordinary free) (fun _ _ => True) _ _ :=
    course_of_law law (fun _ => trivial) (fun _ _ => trivial) (fun _ holds => holds)
  obtain ⟨here, -, first, -⟩ := runAll_continues course plans [] ⟨ordinary, trivial⟩ h idle holds fun _ _ => trivial
  exact here ▸ ⟨first.idle, first.holds⟩

theorem parts_keep {P : Bool → Database → Prop} {G : Database → Database → Prop} (law : Law (Given free) (fun _ => P) G)
    {parts : List (Plan (Errand τ))} (ordinary : Plan.AllOf (Errand.Ordinary free) parts) {h : Host τ}
    (holds : P false h.system.store.content) :
    ∃ outcomes failure t deferred, Plan.carryOutAll run parts (Plan.opened h) = (.ok ⟨outcomes, failure⟩, t) ∧
      t.system.store.status = .busy h.system.store.content deferred ∧ P deferred t.system.store.content := by
  have course : Course (run : Bool → Errand τ → HostAct τ Reply) (Errand.Ordinary free) (fun _ _ => True) _ _ :=
    course_of_law law (fun _ => trivial) (fun _ _ => trivial) (fun _ holds => holds)
  let start : Chronicle (Host τ) (Errand τ) := { state := h }
  obtain ⟨outcomes, failure, last, ran, followed, -⟩ :=
    Plan.carryOutAll_follows (Course.note_keepsSession keepsOrdinary) parts ordinary (Plan.opened start) (Plan.opened_inSession start)
  obtain ⟨deferred, busy, holds', -, -⟩ :=
    course.follows_inside followed ordinary (fun _ => course.opened_inside holds rfl) fun _ _ => trivial
  have echoes : Chronicle.Echoes (Plan.carryOutAll (Chronicle.note run) parts) (Plan.carryOutAll run parts) :=
    Chronicle.carryOutAll_echoes parts
  obtain ⟨answer, state⟩ := echoes (Plan.opened start)
  rw [ran] at answer state
  exact ⟨outcomes, failure, last.state, deferred, Prod.ext answer.symm state.symm, busy, holds'⟩

end Host
end Passbook
