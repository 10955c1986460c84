import Passbook.Proofs.Shelves

/-! Sliding expiry, told by the history of a shelf. A key is live as long as no gap between the accesses since it was last set, and
from the last of them to now, is longer than the time to live. A shelf keeps one time of each key and may have dropped the key, yet
it answers as its history says; sweeps leave no trace in the answers. -/
namespace Passbook.Shelf

structure Event (τ : Type) where
  time : τ
  step : Step τ
  outcome : Except Failure Answer

namespace Step
variable {τ : Type}

def Places (key : String) : Step τ → Prop
  | .set other _ => other = key
  | .delete other => other = key
  | _ => False

def Forward [Zero τ] [LE τ] : Step τ → Prop
  | .advance time => 0 ≤ time
  | .sweep waits => ∀ time, .passes time ∈ waits → 0 ≤ time
  | _ => True

def IsSweep : Step τ → Prop
  | .evict | .sweep _ => True
  | _ => False

def waited : Step τ → List (Step τ)
  | .evict => []
  | .sweep waits => waits.filterMap fun
    | .passes time => some (.advance time)
    | .clockFails => none
  | s => [s]

theorem waited_of_not_isSweep {s : Step τ} (plain : ¬ s.IsSweep) : s.waited = [s] := by
  cases s with
  | evict => exact absurd trivial plain
  | sweep waits => exact absurd trivial plain
  | _ => rfl

def unswept (steps : List (Step τ)) : List (Step τ) := steps.flatMap waited

end Step

section
variable {τ : Type} {history : List (Event τ)} {key : String} {value : Bytes} {times : List τ} {e : Event τ}

def Event.finds (key : String) (e : Event τ) : Bool :=
  match e.step, e.outcome with
  | .get other, .ok (.bytes _) => other == key
  | _, _ => false

def readTimes (key : String) (history : List (Event τ)) : List τ := (history.filter (Event.finds key)).map Event.time

/-- The times at which a key was accessed since it was last set, if that was to this value and it was not deleted since. -/
def Accessed (key : String) (value : Bytes) (times : List τ) (history : List (Event τ)) : Prop :=
  ∃ before latest after, history = before ++ latest :: after ∧ latest.step = .set key value ∧
    (∀ later ∈ after, ¬ later.step.Places key) ∧ times = latest.time :: readTimes key after

theorem readTimes_snoc (key : String) (history : List (Event τ)) (e : Event τ) :
    readTimes key (history ++ [e]) = readTimes key history ++ if e.finds key then [e.time] else [] := by
  unfold readTimes
  rw [List.filter_append, List.map_append]
  by_cases found : e.finds key = true <;> simp [found]

theorem not_accessed_nil : ¬ Accessed key value times [] := by
  rintro ⟨before, latest, after, split, -⟩
  simp at split

theorem accessed_ne_nil (accessed : Accessed key value times history) : times ≠ [] := by
  obtain ⟨_, _, _, _, _, _, rfl⟩ := accessed
  exact List.cons_ne_nil _ _

theorem accessed_snoc :
    Accessed key value times (history ++ [e]) ↔
      e.step = .set key value ∧ times = [e.time] ∨
        ¬ e.step.Places key ∧
          ∃ earlier, Accessed key value earlier history ∧ times = earlier ++ if e.finds key then [e.time] else [] := by
  constructor
  · rintro ⟨before, latest, after, split, isSet, untouched, rfl⟩
    rcases List.eq_nil_or_concat after with rfl | ⟨after, last, rfl⟩
    · obtain ⟨-, rfl⟩ := List.append_singleton_inj.mp split
      exact .inl ⟨isSet, rfl⟩
    · rw [List.concat_eq_append, ← List.cons_append, ← List.append_assoc] at split
      obtain ⟨rfl, rfl⟩ := List.append_singleton_inj.mp split
      rw [List.concat_eq_append] at untouched ⊢
      refine .inr ⟨untouched e (by simp), latest.time :: readTimes key after, ?_, ?_⟩
      · exact ⟨before, latest, after, rfl, isSet, fun later among => untouched later (List.mem_append_left _ among), rfl⟩
      · rw [readTimes_snoc, List.cons_append]
  · rintro (⟨isSet, rfl⟩ | ⟨untouched, earlier, ⟨before, latest, after, rfl, isSet, before', rfl⟩, rfl⟩)
    · exact ⟨history, e, [], rfl, isSet, by simp, rfl⟩
    · refine ⟨before, latest, after ++ [e], by simp, isSet, fun later among => ?_, ?_⟩
      · rcases List.mem_append.mp among with among | new
        · exact before' later among
        · rwa [List.mem_singleton.mp new]
      · rw [readTimes_snoc, List.cons_append]

variable [Sub τ] [LE τ]

/-- No gap between neighbours is longer than `ttl`. -/
def Unbroken (ttl : τ) (times : List τ) : Prop := times.IsChain fun earlier later => later - earlier ≤ ttl

/-- At this time the history of a shelf says that a key still holds a value. -/
def Lives (ttl : τ) (key : String) (value : Bytes) (now : τ) (history : List (Event τ)) : Prop :=
  ∃ times, Accessed key value times history ∧ Unbroken ttl (times ++ [now])

/-- The key was accessed last at this time and has not expired before. -/
def Held (ttl : τ) (key : String) (value : Bytes) (last : τ) (history : List (Event τ)) : Prop :=
  ∃ times, Accessed key value times history ∧ Unbroken ttl times ∧ times.getLast? = some last

variable {ttl last now : τ}

theorem unbroken_snoc (times : List τ) (now : τ) :
    Unbroken ttl (times ++ [now]) ↔ Unbroken ttl times ∧ ∀ last ∈ times.getLast?, now - last ≤ ttl := by
  unfold Unbroken
  simp [List.isChain_append]

theorem lives_iff : Lives ttl key value now history ↔ ∃ last, Held ttl key value last history ∧ now - last ≤ ttl := by
  constructor
  · rintro ⟨times, accessed, unbroken⟩
    obtain ⟨before, gap⟩ := (unbroken_snoc times now).mp unbroken
    have final := List.getLast?_eq_some_getLast (accessed_ne_nil accessed)
    exact ⟨_, ⟨times, accessed, before, final⟩, gap _ final⟩
  · rintro ⟨last, ⟨times, accessed, before, final⟩, gap⟩
    refine ⟨times, accessed, (unbroken_snoc times now).mpr ⟨before, fun last' final' => ?_⟩⟩
    cases final.symm.trans final'
    exact gap

theorem not_held_nil : ¬ Held ttl key value last [] := by
  rintro ⟨times, accessed, -⟩
  exact not_accessed_nil accessed

theorem held_snoc :
    Held ttl key value last (history ++ [e]) ↔
      e.step = .set key value ∧ last = e.time ∨
        ¬ e.step.Places key ∧
          if e.finds key then last = e.time ∧ Lives ttl key value e.time history else Held ttl key value last history := by
  unfold Held
  simp only [accessed_snoc]
  constructor
  · rintro ⟨times, ⟨isSet, rfl⟩ | ⟨untouched, earlier, accessed, rfl⟩, unbroken, final⟩
    · exact .inl ⟨isSet, by simpa using final.symm⟩
    · refine .inr ⟨untouched, ?_⟩
      by_cases found : e.finds key = true
      · simp only [if_pos found] at unbroken final ⊢
        exact ⟨by simpa using final.symm, earlier, accessed, unbroken⟩
      · simp only [if_neg found, List.append_nil] at unbroken final ⊢
        exact ⟨earlier, accessed, unbroken, final⟩
  · rintro (⟨isSet, rfl⟩ | ⟨untouched, before⟩)
    · exact ⟨[e.time], .inl ⟨isSet, rfl⟩, List.isChain_singleton _, rfl⟩
    · by_cases found : e.finds key = true
      · simp only [if_pos found] at before ⊢
        obtain ⟨rfl, earlier, accessed, unbroken⟩ := before
        exact ⟨earlier ++ [e.time], .inr ⟨untouched, earlier, accessed, rfl⟩, unbroken, by simp⟩
      · simp only [if_neg found, List.append_nil] at before ⊢
        obtain ⟨earlier, accessed, unbroken, final⟩ := before
        exact ⟨earlier, .inr ⟨untouched, earlier, accessed, rfl⟩, unbroken, final⟩

theorem held_snoc_congr {history' : List (Event τ)} {e' : Event τ}
    (same : ∀ value last, Held ttl key value last history ↔ Held ttl key value last history') (steps : e.step = e'.step)
    (times : e.time = e'.time) (finds : e.finds key = e'.finds key) :
    Held ttl key value last (history ++ [e]) ↔ Held ttl key value last (history' ++ [e']) := by
  rw [held_snoc, held_snoc, steps, times, finds, lives_iff, lives_iff]
  simp only [same]

theorem held_snoc_of_silent (untouched : ¬ e.step.Places key) (unread : e.finds key = false) :
    Held ttl key value last (history ++ [e]) ↔ Held ttl key value last history := by
  rw [held_snoc]
  constructor
  · rintro (⟨isSet, -⟩ | ⟨-, before⟩)
    · rw [isSet] at untouched
      exact absurd rfl untouched
    · simpa [unread] using before
  · exact fun before => .inr ⟨untouched, by simpa [unread] using before⟩

end

/-- What was asked of the shelf about its keys, and what it answered. -/
def asked {τ : Type} (history : List (Event τ)) : List (Step τ × Except Failure Answer) :=
  history.filterMap fun e => match e.step with
    | .get _ | .contains _ => some (e.step, e.outcome)
    | _ => none

theorem asked_append {τ : Type} (history rest : List (Event τ)) : asked (history ++ rest) = asked history ++ asked rest :=
  List.filterMap_append

section
variable {τ : Type} [Add τ] [Sub τ] [LT τ] [DecidableLT τ] [Reach τ]

def takeAll : List (Step τ) → Shelf τ → List (Event τ) × Shelf τ
  | [], shelf => ([], shelf)
  | s :: steps, shelf =>
    let taken := shelf.step s
    let rest := takeAll steps taken.2.2
    (⟨shelf.clock, s, taken.1⟩ :: rest.1, rest.2)

theorem takeAll_append (steps rest : List (Step τ)) (shelf : Shelf τ) :
    takeAll (steps ++ rest) shelf =
      ((takeAll steps shelf).1 ++ (takeAll rest (takeAll steps shelf).2).1, (takeAll rest (takeAll steps shelf).2).2) := by
  induction steps generalizing shelf with
  | nil => rfl
  | cons s steps ih => rw [List.cons_append, takeAll, ih, takeAll, List.cons_append]

def eventOf (shelf : Shelf τ) (s : Step τ) : Event τ := ⟨shelf.clock, s, (shelf.step s).1⟩

end

section
variable {τ : Type} [AddCommGroup τ] [LinearOrder τ] {history history' : List (Event τ)} {ttl clock : τ}
  {cache cache' : Cache τ Bytes} {key : String} {value : Bytes} {e e' : Event τ}

/-- A cache holds what a history says, except that it may lack what has expired. -/
structure Agrees (ttl : τ) (history : List (Event τ)) (clock : τ) (cache : Cache τ Bytes) : Prop where
  lasting : cache.ttl = ttl
  distinct : cache.Distinct
  sound : ∀ e ∈ cache.entries, Held ttl e.key e.value e.lastAccess history
  complete : ∀ key value last, Held ttl key value last history → clock - last ≤ ttl → ⟨key, value, last⟩ ∈ cache.entries

namespace Agrees

theorem isExpired_eq_false (agrees : Agrees ttl history clock cache) (now : τ) (e : Cached τ Bytes) :
    cache.isExpired now e = false ↔ now - e.lastAccess ≤ ttl := by
  rw [Cache.isExpired, decide_eq_false_iff_not, agrees.lasting, not_lt]

theorem live_iff (agrees : Agrees ttl history clock cache) :
    cache.Live clock key value ↔ Lives ttl key value clock history := by
  rw [lives_iff]
  constructor
  · rintro ⟨e, there, rfl, rfl, young⟩
    exact ⟨e.lastAccess, agrees.sound e there, (agrees.isExpired_eq_false clock e).mp young⟩
  · rintro ⟨last, held, gap⟩
    exact ⟨_, agrees.complete key value last held gap, rfl, rfl, (agrees.isExpired_eq_false clock _).mpr gap⟩

theorem silent (agrees : Agrees ttl history clock cache) (untouched : ∀ key, ¬ e.step.Places key)
    (unread : ∀ key, e.finds key = false) : Agrees ttl (history ++ [e]) clock cache where
  lasting := agrees.lasting
  distinct := agrees.distinct
  sound := fun e' there => (held_snoc_of_silent (untouched _) (unread _)).mpr (agrees.sound e' there)
  complete := fun key value last held => agrees.complete key value last ((held_snoc_of_silent (untouched _) (unread _)).mp held)

theorem evicted (agrees : Agrees ttl history clock cache) : Agrees ttl history clock (cache.evict clock).2 where
  lasting := agrees.lasting
  distinct := agrees.distinct.evict clock
  sound := fun e there => agrees.sound e (Cache.mem_evict.mp there).1
  complete := fun key value last held gap =>
    Cache.mem_evict.mpr ⟨agrees.complete key value last held gap, (agrees.isExpired_eq_false clock _).mpr gap⟩

theorem set (agrees : Agrees ttl history clock cache) (isSet : e.step = .set key value) (now : e.time = clock) :
    Agrees ttl (history ++ [e]) clock (cache.set clock key value) where
  lasting := by
    unfold Cache.set
    split <;> exact agrees.lasting
  distinct := agrees.distinct.set
  sound := by
    intro e' there
    rw [held_snoc, isSet]
    rcases Cache.mem_set.mp there with rfl | ⟨there, other⟩
    · exact .inl ⟨rfl, now.symm⟩
    · refine .inr ⟨fun same => other same.symm, ?_⟩
      simpa [Event.finds, isSet] using agrees.sound e' there
  complete := by
    intro key' value' last held gap
    rw [held_snoc, isSet] at held
    rcases held with ⟨same, rfl⟩ | ⟨other, held⟩
    · cases same
      exact Cache.mem_set.mpr (.inl (by rw [now]))
    · have held : Held ttl key' value' last history := by simpa [Event.finds, isSet] using held
      exact Cache.mem_set.mpr (.inr ⟨agrees.complete key' value' last held gap, fun same => other same.symm⟩)

theorem deleted (agrees : Agrees ttl history clock cache) (isDelete : e.step = .delete key) :
    Agrees ttl (history ++ [e]) clock (cache.remove key) where
  lasting := agrees.lasting
  distinct := agrees.distinct.remove
  sound := by
    intro e' there
    obtain ⟨there, other⟩ := Cache.mem_remove.mp there
    rw [held_snoc, isDelete]
    refine .inr ⟨fun same => other same.symm, ?_⟩
    simpa [Event.finds, isDelete] using agrees.sound e' there
  complete := by
    intro key' value' last held gap
    rw [held_snoc, isDelete] at held
    rcases held with ⟨same, -⟩ | ⟨other, held⟩
    · cases same
    · have held : Held ttl key' value' last history := by simpa [Event.finds, isDelete] using held
      exact Cache.mem_remove.mpr ⟨agrees.complete key' value' last held gap, fun same => other same.symm⟩

theorem read (agrees : Agrees ttl history clock cache) (isGet : e.step = .get key) (now : e.time = clock)
    (answered : ∀ key', e.finds key' = true ↔ key' = key ∧ ∃ value, cache.Live clock key value) :
    Agrees ttl (history ++ [e]) clock (cache.get clock key).2 where
  lasting := by
    rcases Cache.get_cases cache clock key with ⟨_, got⟩ | ⟨_, _, _, got⟩ | ⟨_, _, _, got⟩ <;> rw [got] <;> exact agrees.lasting
  distinct := agrees.distinct.get clock key
  sound := by
    intro e' there
    rw [held_snoc, isGet]
    refine .inr ⟨id, ?_⟩
    rcases agrees.distinct.mem_get.mp there with ⟨there, other⟩ | ⟨value, live, rfl⟩
    · rw [if_neg fun found => other ((answered e'.key).mp found).1]
      exact agrees.sound e' there
    · rw [if_pos ((answered key).mpr ⟨rfl, value, live⟩)]
      rw [now]
      exact ⟨rfl, agrees.live_iff.mp live⟩
  complete := by
    intro key' value' last held gap
    rw [held_snoc, isGet] at held
    refine agrees.distinct.mem_get.mpr ?_
    rcases held with ⟨same, -⟩ | ⟨-, held⟩
    · cases same
    split at held
    next found =>
      obtain ⟨rfl, -⟩ := (answered key').mp found
      obtain ⟨rfl, lives⟩ := held
      rw [now] at lives ⊢
      exact .inr ⟨value', agrees.live_iff.mpr lives, rfl⟩
    next missed =>
      have there := agrees.complete key' value' last held gap
      refine .inl ⟨there, fun same => missed ((answered key').mpr ⟨same, value', ?_⟩)⟩
      exact ⟨_, there, same, rfl, (agrees.isExpired_eq_false clock _).mpr gap⟩

variable [IsOrderedAddMonoid τ]

theorem later (agrees : Agrees ttl history clock cache) {time : τ} (forward : 0 ≤ time) :
    Agrees ttl history (clock + time) cache where
  lasting := agrees.lasting
  distinct := agrees.distinct
  sound := agrees.sound
  complete := fun key value last held gap => by
    have grown : clock - last ≤ clock + time - last := sub_le_sub_right (le_add_of_nonneg_right forward) last
    exact agrees.complete key value last held (grown.trans gap)

variable [Reach τ] [Reach.Unbounded τ]

theorem swept (agrees : Agrees ttl history clock cache) (waits : List (Cache.Wait τ))
    (forward : ∀ time, .passes time ∈ waits → 0 ≤ time) :
    Agrees ttl history (cache.sweep waits clock).2.1 (cache.sweep waits clock).2.2 := by
  induction waits generalizing clock cache with
  | nil => exact agrees
  | cons wait waits ih =>
    have others : ∀ time, .passes time ∈ waits → 0 ≤ time := fun time among => forward time (List.mem_cons_of_mem _ among)
    cases wait with
    | clockFails => exact ih agrees others
    | passes time =>
      have waited := (agrees.later (forward time List.mem_cons_self)).evicted
      simp only [Cache.sweep, Cache.tellsAges_of_unbounded, if_true]
      exact ih waited others

theorem taken {shelf : Shelf τ} (agrees : Agrees ttl history shelf.clock shelf.cache) {s : Step τ} (forward : s.Forward) :
    Agrees ttl (history ++ [shelf.eventOf s]) (shelf.step s).2.2.clock (shelf.step s).2.2.cache := by
  cases s with
  | set key value => exact agrees.set rfl rfl
  | get key =>
    have answered (key' : String) :
        (shelf.eventOf (.get key)).finds key' = true ↔ key' = key ∧ ∃ value, shelf.cache.Live shelf.clock key value := by
      have found (value : Bytes) : (shelf.cache.get shelf.clock key).1 = some value ↔ shelf.cache.Live shelf.clock key value :=
        agrees.distinct.get_eq_some
      rw [eventOf, step_get]
      cases got : (shelf.cache.get shelf.clock key).1 with
      | none =>
        refine ⟨fun finds => Bool.noConfusion finds, fun ⟨_, value, live⟩ => ?_⟩
        cases got.symm.trans ((found value).mpr live)
      | some value =>
        have live := (found value).mp got
        simp only [Event.finds, beq_iff_eq]
        exact ⟨fun same => ⟨same.symm, value, live⟩, fun same => same.1.symm⟩
    rw [step_get]
    exact agrees.read rfl rfl answered
  | contains key =>
    rw [step_contains]
    exact agrees.silent (fun _ => id) fun _ => rfl
  | delete key => exact agrees.deleted rfl
  | evict =>
    rw [step_evict]
    exact agrees.evicted.silent (fun _ => id) fun _ => rfl
  | advance time =>
    rw [step_advance]
    exact (agrees.later forward).silent (fun _ => id) fun _ => rfl
  | sweep waits =>
    rw [step_sweep]
    exact (agrees.swept waits forward).silent (fun _ => id) fun _ => rfl
  | size => exact agrees.silent (fun _ => id) fun _ => rfl
  | start => exact agrees.silent (fun _ => id) fun _ => rfl
  | stop => exact agrees.silent (fun _ => id) fun _ => rfl
  | isRunning => exact agrees.silent (fun _ => id) fun _ => rfl

theorem takenAll (shelf : Shelf τ) (agrees : Agrees ttl history shelf.clock shelf.cache) {steps : List (Step τ)}
    (forward : ∀ s ∈ steps, s.Forward) :
    Agrees ttl (history ++ (takeAll steps shelf).1) (takeAll steps shelf).2.clock (takeAll steps shelf).2.cache := by
  induction steps generalizing shelf history with
  | nil => simpa [takeAll] using agrees
  | cons s steps ih =>
    have after := ih _ (agrees.taken (forward s List.mem_cons_self)) fun other among => forward other (List.mem_cons_of_mem s among)
    rwa [List.append_assoc] at after

end Agrees

theorem agrees_of_opened {interval : τ} (opened : Cache.open? ttl interval = .ok cache) (clock : τ) :
    Agrees ttl [] clock cache := by
  have empty : cache = ⟨ttl, interval, []⟩ := by
    unfold Cache.open? at opened
    split at opened
    · cases opened
    · split at opened
      · cases opened
      · exact (Except.ok.inj opened).symm
  subst empty
  exact ⟨rfl, List.nodup_nil, fun e there => absurd there List.not_mem_nil, fun _ _ _ held => absurd held not_held_nil⟩

/-- Two caches, at one time, whose histories tell the same of every key. -/
structure Twins (ttl clock : τ) (cache cache' : Cache τ Bytes) (history history' : List (Event τ)) : Prop where
  left : Agrees ttl history clock cache
  right : Agrees ttl history' clock cache'
  same : ∀ key value last, Held ttl key value last history ↔ Held ttl key value last history'

namespace Twins

theorem live_iff (twins : Twins ttl clock cache cache' history history') :
    cache.Live clock key value ↔ cache'.Live clock key value := by
  rw [twins.left.live_iff, twins.right.live_iff, lives_iff, lives_iff]
  simp only [twins.same]

theorem get_eq (twins : Twins ttl clock cache cache' history history') (key : String) :
    (cache.get clock key).1 = (cache'.get clock key).1 := by
  apply Option.ext
  intro value
  rw [twins.left.distinct.get_eq_some, twins.right.distinct.get_eq_some]
  exact twins.live_iff

theorem contains_eq (twins : Twins ttl clock cache cache' history history') (key : String) :
    cache.contains clock key = cache'.contains clock key := by
  rw [Bool.eq_iff_iff, twins.left.distinct.contains_iff, twins.right.distinct.contains_iff]
  simp only [twins.live_iff]

theorem silent (twins : Twins ttl clock cache cache' history history') {left : Cache τ Bytes}
    (agrees : Agrees ttl (history ++ [e]) clock left) (untouched : ∀ key, ¬ e.step.Places key) (unread : ∀ key, e.finds key = false) :
    Twins ttl clock left cache' (history ++ [e]) history' where
  left := agrees
  right := twins.right
  same := fun key value last => (held_snoc_of_silent (untouched key) (unread key)).trans (twins.same key value last)

variable [IsOrderedAddMonoid τ] [Reach τ] [Reach.Unbounded τ]

theorem waited (twins : Twins ttl clock cache cache' history history') (waits : List (Cache.Wait τ))
    (forward : ∀ time, .passes time ∈ waits → 0 ≤ time) (sweeping : Bool) :
    ∃ moves, takeAll (Step.waited (.sweep waits)) ⟨cache', clock, sweeping⟩ =
        (moves, ⟨cache', (cache.sweep waits clock).2.1, sweeping⟩) ∧ asked moves = [] ∧
      Twins ttl (cache.sweep waits clock).2.1 (cache.sweep waits clock).2.2 cache' history (history' ++ moves) := by
  induction waits generalizing clock cache history' with
  | nil => exact ⟨[], rfl, rfl, by rwa [List.append_nil]⟩
  | cons wait waits ih =>
    have others : ∀ time, .passes time ∈ waits → 0 ≤ time := fun time among => forward time (List.mem_cons_of_mem _ among)
    cases wait with
    | clockFails => exact ih twins others
    | passes time =>
      have here := forward time List.mem_cons_self
      let move : Event τ := ⟨clock, .advance time, .ok .done⟩
      have after : Twins ttl (clock + time) (cache.evict (clock + time)).2 cache' history (history' ++ [move]) :=
        { left := (twins.left.later here).evicted
          right := (twins.right.later here).silent (fun _ => id) fun _ => rfl
          same := fun key value last => (twins.same key value last).trans (held_snoc_of_silent id rfl).symm }
      obtain ⟨moves, run, silent, twins⟩ := ih after others
      refine ⟨move :: moves, ?_, silent, ?_⟩
      · simp only [Step.waited, List.filterMap_cons, takeAll, step_advance] at run ⊢
        simp only [Cache.sweep, Cache.tellsAges_of_unbounded, if_true, run, move]
      · simp only [Cache.sweep, Cache.tellsAges_of_unbounded, if_true]
        simpa using twins

theorem taken {shelf shelf' : Shelf τ} (clocks : shelf'.clock = shelf.clock)
    (twins : Twins ttl shelf.clock shelf.cache shelf'.cache history history') {s : Step τ} (forward : s.Forward) (plain : ¬ s.IsSweep) :
    asked [shelf.eventOf s] = asked [shelf'.eventOf s] ∧ (shelf'.step s).2.2.clock = (shelf.step s).2.2.clock ∧
      Twins ttl (shelf.step s).2.2.clock (shelf.step s).2.2.cache (shelf'.step s).2.2.cache (history ++ [shelf.eventOf s])
        (history' ++ [shelf'.eventOf s]) := by
  have got (key : String) : (shelf'.step (.get key)).1 = (shelf.step (.get key)).1 := by
    rw [step_get, step_get, clocks, twins.get_eq key]
  have told (key : String) : (shelf'.step (.contains key)).1 = (shelf.step (.contains key)).1 := by
    rw [step_contains, step_contains, clocks, twins.contains_eq key]
  have answers : asked [shelf.eventOf s] = asked [shelf'.eventOf s] ∧
      ∀ key, (shelf.eventOf s).finds key = (shelf'.eventOf s).finds key := by
    cases s with
    | get key =>
      unfold eventOf
      rw [got key]
      exact ⟨rfl, fun _ => rfl⟩
    | contains key =>
      unfold eventOf
      rw [told key]
      exact ⟨rfl, fun _ => rfl⟩
    | _ => exact ⟨rfl, fun _ => rfl⟩
  have clocks' : (shelf'.step s).2.2.clock = (shelf.step s).2.2.clock := by
    cases s with
    | sweep waits => exact absurd trivial plain
    | get key => rw [step_get, step_get, clocks]
    | contains key => rw [step_contains, step_contains, clocks]
    | evict => rw [step_evict, step_evict, clocks]
    | advance time => rw [step_advance, step_advance, clocks]
    | _ => exact clocks
  refine ⟨answers.1, clocks', twins.left.taken forward, ?_, fun key value last => ?_⟩
  · exact clocks' ▸ (clocks ▸ twins.right : Agrees ttl history' shelf'.clock shelf'.cache).taken forward
  · exact held_snoc_congr (twins.same key) rfl clocks.symm (answers.2 key)

theorem asked_eq (shelf shelf' : Shelf τ) (clocks : shelf'.clock = shelf.clock)
    (twins : Twins ttl shelf.clock shelf.cache shelf'.cache history history') {steps : List (Step τ)}
    (forward : ∀ s ∈ steps, s.Forward) : asked (takeAll steps shelf).1 = asked (takeAll (Step.unswept steps) shelf').1 := by
  induction steps generalizing shelf shelf' history history' with
  | nil => rfl
  | cons s steps ih =>
    have here := forward s List.mem_cons_self
    have others : ∀ s ∈ steps, s.Forward := fun other among => forward other (List.mem_cons_of_mem s among)
    have whole : asked (takeAll (s :: steps) shelf).1 =
        asked [shelf.eventOf s] ++ asked (takeAll steps (shelf.step s).2.2).1 := by
      rw [← asked_append]
      rfl
    have parts : asked (takeAll (Step.unswept (s :: steps)) shelf').1 =
        asked (takeAll s.waited shelf').1 ++ asked (takeAll (Step.unswept steps) (takeAll s.waited shelf').2).1 := by
      rw [← asked_append, Step.unswept, List.flatMap_cons, takeAll_append]
      rfl
    rw [whole, parts]
    -- The run on the left takes every step. Where it sweeps, only the time that it waits passes on the right.
    by_cases plain : s.IsSweep
    · cases s with
      | evict =>
        have agrees := twins.left.taken (s := .evict) trivial
        rw [step_evict] at agrees ⊢
        exact ih { shelf with cache := (shelf.cache.evict shelf.clock).2 } shelf' clocks
          (twins.silent agrees (fun _ => id) fun _ => rfl) others
      | sweep waits =>
        obtain ⟨cache', clock', sweeping⟩ := shelf'
        obtain rfl : clock' = shelf.clock := clocks
        obtain ⟨moves, run, silent, after⟩ := twins.waited waits here sweeping
        have agrees := twins.left.taken (s := .sweep waits) here
        rw [step_sweep] at agrees ⊢
        rw [run, silent]
        exact ih { shelf with
            clock := (shelf.cache.sweep waits shelf.clock).2.1, cache := (shelf.cache.sweep waits shelf.clock).2.2 } _ rfl
          (after.silent agrees (fun _ => id) fun _ => rfl) others
      | _ => exact plain.elim
    · obtain ⟨answers, clocks, twins⟩ := twins.taken clocks here plain
      rw [Step.waited_of_not_isSweep plain, answers]
      exact congrArg _ (ih _ _ clocks twins others)

end Twins

variable [IsOrderedAddMonoid τ] [Reach τ] [Reach.Unbounded τ]

/-- The history of a shelf tells what the shelf answers next. A read answers with the value that the history says is live, and is
refused if there is none; a look tells whether there is one, and leaves the shelf as it is. Runs that differ by sweeps only answer
the same. -/
theorem answers_by_history {interval : τ} (opened : Cache.open? ttl interval = .ok cache) (clock : τ) (sweeping : Bool)
    (steps : List (Step τ)) (forward : ∀ s ∈ steps, s.Forward) :
    let run := takeAll steps ⟨cache, clock, sweeping⟩
    (∀ key,
      (∀ value, (run.2.step (.get key)).1 = .ok (.bytes value) ↔ Lives ttl key value run.2.clock run.1) ∧
      ((¬ ∃ value, Lives ttl key value run.2.clock run.1) →
        (run.2.step (.get key)).1 = .error (.ledger (.reportNotFound key))) ∧
      (∃ found, (run.2.step (.contains key)).1 = .ok (.truth found) ∧
        (found = true ↔ ∃ value, Lives ttl key value run.2.clock run.1)) ∧
      (run.2.step (.contains key)).2.2 = run.2) ∧
    ∀ steps', (∀ s ∈ steps', s.Forward) → Step.unswept steps = Step.unswept steps' →
      asked run.1 = asked (takeAll steps' ⟨cache, clock, sweeping⟩).1 := by
  intro run
  have agrees : Agrees ttl run.1 run.2.clock run.2.cache :=
    (agrees_of_opened opened clock).takenAll ⟨cache, clock, sweeping⟩ forward
  refine ⟨fun key => ⟨fun value => ?_, fun dead => ?_, ⟨_, by rw [step_contains], ?_⟩, by rw [step_contains]⟩,
    fun steps' forward' same => ?_⟩
  · rw [← agrees.live_iff, ← agrees.distinct.get_eq_some, step_get]
    cases (run.2.cache.get run.2.clock key).1 <;> simp
  · have missing : (run.2.cache.get run.2.clock key).1 = none := by
      rw [Option.eq_none_iff_forall_ne_some]
      exact fun value got => dead ⟨value, agrees.live_iff.mp (agrees.distinct.get_eq_some.mp got)⟩
    rw [step_get, missing]
  · rw [agrees.distinct.contains_iff]
    simp only [agrees.live_iff]
  · have start : Twins ttl clock cache cache [] [] :=
      ⟨agrees_of_opened opened clock, agrees_of_opened opened clock, fun _ _ _ => Iff.rfl⟩
    have left := start.asked_eq ⟨cache, clock, sweeping⟩ ⟨cache, clock, sweeping⟩ rfl forward
    have right := start.asked_eq ⟨cache, clock, sweeping⟩ ⟨cache, clock, sweeping⟩ rfl forward'
    rw [left, same, right]

end

/-- An entry that is read when its age is just the time to live, and once more when as much time has passed again. -/
theorem answers_by_history_at_limit :
    let _ : Reach Int := .everywhere Int
    let steps : List (Step Int) := [.set "2023-5" [1], .advance 4, .advance 6, .get "2023-5", .advance 10]
    let swept : List (Step Int) := [.set "2023-5" [1], .sweep [.passes 4, .passes 6], .get "2023-5", .evict, .advance 10]
    let empty : Shelf Int := ⟨⟨10, 1, []⟩, 0, true⟩
    Cache.open? 10 1 = .ok empty.cache ∧ (∀ s ∈ steps, s.Forward) ∧ (∀ s ∈ swept, s.Forward) ∧
      (takeAll steps empty).2.clock = 20 ∧ Lives 10 "2023-5" [1] 20 (takeAll steps empty).1 ∧
      asked (takeAll steps empty).1 = asked (takeAll swept empty).1 := by
  intro _ steps swept empty
  have _ : Reach.Unbounded Int := .everywhere Int
  have forward : ∀ s ∈ steps, s.Forward := by simp [steps, Step.Forward]
  have forward' : ∀ s ∈ swept, s.Forward := by simp [swept, Step.Forward]
  have opened : Cache.open? 10 1 = .ok empty.cache := rfl
  obtain ⟨answers, same⟩ := answers_by_history opened 0 true steps forward
  exact ⟨opened, forward, forward', rfl, ((answers "2023-5").1 [1]).mp rfl, same swept forward' rfl⟩

end Passbook.Shelf
