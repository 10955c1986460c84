import Passbook.Proofs.Reports

/-! What a sweeper does in its life. It makes one pass after each wait and stops at nothing: a pass that cannot tell the time or an age
leaves the cache alone and is reported. What is left in the end is what no pass has found expired, as it was and where it was, and
everything else has been evicted by just one pass. -/
namespace Passbook

namespace Cache
variable {τ β : Type}

def Pass.keys : Pass → List String
  | .evicted keys => keys
  | .failed => []

def readings [Add τ] : τ → List (Wait τ) → List (Option τ)
  | _, [] => []
  | now, .passes time :: waits => some (now + time) :: readings (now + time) waits
  | now, .clockFails :: waits => none :: readings now waits

def moved [Add τ] (now : τ) : Wait τ → τ
  | .passes time => now + time
  | .clockFails => now

def successes (log : List (Option τ × Pass)) : List τ :=
  log.filterMap fun
    | (some now, .evicted _) => some now
    | _ => none

variable [Sub τ] [LT τ] [DecidableLT τ] [Reach τ]

/-- One pass: it fails and leaves the cache alone, or evicts what has expired. -/
inductive Attempt (c : Cache τ β) : Option τ → Pass → Cache τ β → Prop where
  | fails {reading : Option τ} (cannotTell : ∀ now, reading = some now → c.tellsAges now = false) : Attempt c reading .failed c
  | evicts {now : τ} (tells : c.tellsAges now = true) : Attempt c (some now) (.evicted (c.evict now).1) (c.evict now).2

inductive Swept : Cache τ β → List (Option τ × Pass) → Cache τ β → Prop where
  | done (c : Cache τ β) : Swept c [] c
  | pass {c c₁ c₂ : Cache τ β} {reading : Option τ} {pass : Pass} {log : List (Option τ × Pass)}
      (first : c.Attempt reading pass c₁) (rest : Swept c₁ log c₂) : Swept c ((reading, pass) :: log) c₂

variable {c c' : Cache τ β} {now : τ} {reading : Option τ} {pass : Pass} {log : List (Option τ × Pass)}

section
variable [Add τ]

omit [Sub τ] [LT τ] [DecidableLT τ] [Reach τ] in
theorem readings_length (waits : List (Wait τ)) (now : τ) : (readings now waits).length = waits.length := by
  induction waits generalizing now with
  | nil => rfl
  | cons wait waits ih => cases wait <;> exact congrArg (· + 1) (ih _)

theorem sweep_length (waits : List (Wait τ)) (now : τ) (c : Cache τ β) : (c.sweep waits now).1.length = waits.length := by
  induction waits generalizing now c with
  | nil => rfl
  | cons wait waits ih =>
    cases wait with
    | clockFails => exact congrArg (· + 1) (ih now c)
    | passes time =>
      unfold sweep
      split
      · exact congrArg (· + 1) (ih _ _)
      · exact congrArg (· + 1) (ih _ _)

theorem sweep_clock (waits : List (Wait τ)) (now : τ) (c : Cache τ β) : (c.sweep waits now).2.1 = waits.foldl moved now := by
  induction waits generalizing now c with
  | nil => rfl
  | cons wait waits ih =>
    cases wait with
    | clockFails => exact ih now c
    | passes time =>
      unfold sweep
      split
      · exact ih _ _
      · exact ih _ _

theorem sweep_swept (waits : List (Wait τ)) (now : τ) (c : Cache τ β) :
    Swept c ((readings now waits).zip (c.sweep waits now).1) (c.sweep waits now).2.2 := by
  induction waits generalizing now c with
  | nil => exact .done c
  | cons wait waits ih =>
    cases wait with
    | clockFails => exact .pass (.fails nofun) (ih now c)
    | passes time =>
      unfold sweep readings
      split
      · rename_i tells
        exact .pass (.evicts tells) (ih _ _)
      · rename_i cannotTell
        refine .pass (.fails ?_) (ih _ _)
        rintro _ ⟨⟩
        exact Bool.eq_false_iff.mpr cannotTell

end

theorem Attempt.keys_perm (attempt : c.Attempt reading pass c') :
    (pass.keys ++ c'.entries.map Cached.key).Perm (c.entries.map Cached.key) := by
  cases attempt with
  | fails => exact .refl _
  | evicts => exact List.map_append.symm ▸ (List.filter_append_perm _ c.entries).map Cached.key

/-- Each key is still there or has been evicted by one pass. -/
theorem Swept.keys_perm (swept : Swept c log c') :
    (log.flatMap (fun entry => entry.2.keys) ++ c'.entries.map Cached.key).Perm (c.entries.map Cached.key) := by
  induction swept with
  | done c => exact .refl _
  | pass first rest ih =>
    rw [List.flatMap_cons, List.append_assoc]
    exact (ih.append_left _).trans first.keys_perm

omit [Sub τ] [LT τ] [DecidableLT τ] [Reach τ] in
theorem successes_failed : successes ((reading, .failed) :: log) = successes log := by
  cases reading <;> rfl

theorem Swept.kept (swept : Swept c log c') :
    c' = { c with entries := c.entries.filter fun e => ∀ now ∈ successes log, ¬ c.ttl < now - e.lastAccess } := by
  induction swept with
  | done c => simp [successes]
  | @pass c c₁ c₂ reading pass log first rest ih =>
    cases first with
    | fails =>
      rw [successes_failed]
      exact ih
    | @evicts now tells =>
      rw [ih]
      change Cache.mk c.ttl c.interval (List.filter _ (List.filter _ _)) = _
      rw [List.filter_filter]
      refine congrArg (Cache.mk c.ttl c.interval) (List.filter_congr fun e _ => ?_)
      have successes_cons : successes ((some now, .evicted (c.evict now).1) :: log) = now :: successes log := rfl
      simp only [successes_cons, List.forall_mem_cons, Bool.decide_and, decide_not]
      exact Bool.and_comm _ _

theorem Swept.count (swept : Swept c log c') :
    (log.map fun entry => entry.2.keys.length).sum + c'.entries.length = c.entries.length := by
  have lengths := swept.keys_perm.length_eq
  simpa [List.length_flatMap] using lengths

theorem Swept.keys_nodup (swept : Swept c log c') (distinct : c.Distinct) : (log.flatMap fun entry => entry.2.keys).Nodup :=
  (List.nodup_append.mp (swept.keys_perm.nodup_iff.mpr distinct)).1

theorem Swept.mem_keys (swept : Swept c log c') (distinct : c.Distinct) (key : String) :
    (key ∈ log.flatMap fun entry => entry.2.keys) ↔
      ∃ e ∈ c.entries, e.key = key ∧ ∃ now ∈ successes log, c.ttl < now - e.lastAccess := by
  have parts := swept.keys_perm.mem_iff (a := key)
  have apart := (List.nodup_append.mp (swept.keys_perm.nodup_iff.mpr distinct)).2.2
  have stays {e : Cached τ β} : e ∈ c'.entries ↔ e ∈ c.entries ∧ ∀ now ∈ successes log, ¬ c.ttl < now - e.lastAccess := by
    rw [swept.kept]
    simp
  constructor
  · intro among
    obtain ⟨e, there, keyed⟩ := List.mem_map.mp (parts.mp (List.mem_append_left _ among))
    refine ⟨e, there, keyed, ?_⟩
    by_contra young
    push Not at young
    exact apart key among key (List.mem_map.mpr ⟨e, stays.mpr ⟨there, young⟩, keyed⟩) rfl
  · rintro ⟨e, there, rfl, now, good, old⟩
    refine (List.mem_append.mp (parts.mpr (List.mem_map_of_mem there))).resolve_right fun left => ?_
    obtain ⟨e', there', keyed⟩ := List.mem_map.mp left
    obtain ⟨among, young⟩ := stays.mp there'
    cases distinct.eq_of_key among there keyed
    exact young now good old

end Cache

def Journal.Record.evictedKeys (record : Journal.Record) : List Json :=
  match record.details.extra.bind (·.member? "keys") with
  | some (.array keys) => keys
  | _ => []

def Journal.Record.tellsFailedSweep (record : Journal.Record) : Bool :=
  record.level == Journal.Level.error && record.message == "Report cache sweep failed"

namespace Shelf

theorem evictedKeys_notesOf (now : Time.Reading) (passes : List Cache.Pass) :
    ((passes.flatMap notesOf).map (·.record now)).flatMap Journal.Record.evictedKeys = (passes.flatMap Cache.Pass.keys).map .string := by
  induction passes with
  | nil => rfl
  | cons pass passes ih =>
    have own : ((notesOf pass).map (·.record now)).flatMap Journal.Record.evictedKeys = pass.keys.map .string := by
      match pass with
      | .failed => rfl
      | .evicted [] => rfl
      | .evicted (key :: keys) => simp [notesOf, Note.record, Journal.Record.evictedKeys, Json.member?, Json.ofList, Cache.Pass.keys]
    rw [List.flatMap_cons, List.map_append, List.flatMap_append, ih, own, ← List.map_append, List.flatMap_cons]

theorem failures_notesOf (now : Time.Reading) (passes : List Cache.Pass) :
    ((passes.flatMap notesOf).map (·.record now)).countP Journal.Record.tellsFailedSweep = passes.count .failed := by
  induction passes with
  | nil => rfl
  | cons pass passes ih =>
    have own : ((notesOf pass).map (·.record now)).countP Journal.Record.tellsFailedSweep = [pass].count .failed := by
      match pass with
      | .failed => rfl
      | .evicted [] => rfl
      | .evicted (key :: keys) => rfl
    rw [List.flatMap_cons, List.map_append, List.countP_append, ih, own, ← List.count_append, List.singleton_append]

theorem step_sweep_of_inReach {τ : Type} [Add τ] [Sub τ] [LT τ] [DecidableLT τ] [Reach τ] {shelf : Shelf τ}
    {waits : List (Cache.Wait τ)} (inReach : waitsInReach shelf.clock waits = waits) :
    shelf.step (.sweep waits) = (.ok .done, (shelf.cache.sweep waits shelf.clock).1.flatMap notesOf,
      { shelf with clock := waits.foldl Cache.moved shelf.clock, cache := (shelf.cache.sweep waits shelf.clock).2.2 }) := by
  simp only [step, inReach, if_true, Cache.sweep_clock]

end Shelf

namespace System
open Cache

variable {τ : Type} [Add τ] [Sub τ] [LT τ] [DecidableLT τ] [Reach τ]

/-- The sweeper makes just one pass after each wait and ends by itself. Each pass fails and leaves the shelf alone, which is reported once,
or evicts what has expired. What is left are the entries that no pass has found expired, unchanged and in their order; each other key has
been evicted, counted and reported by one pass. -/
theorem sweep_settles (s : System τ) (distinct : s.shelf.cache.Distinct) (waits : List (Wait τ))
    (inReach : Shelf.waitsInReach s.shelf.clock waits = waits) :
    let passes := (s.shelf.cache.sweep waits s.shelf.clock).1
    let left := (s.shelf.cache.sweep waits s.shelf.clock).2.2
    let log := (readings s.shelf.clock waits).zip passes
    ∃ records,
      onShelf (.sweep waits) s = (.ok .done, { s with
        store := { s.store with journal := s.store.journal ++ records },
        shelf := { s.shelf with clock := waits.foldl moved s.shelf.clock, cache := left } }) ∧
      passes.length = waits.length ∧ Swept s.shelf.cache log left ∧
      left = { s.shelf.cache with
        entries := s.shelf.cache.entries.filter fun e => ∀ now ∈ successes log, ¬ s.shelf.cache.ttl < now - e.lastAccess } ∧
      (passes.map fun pass => pass.keys.length).sum + left.entries.length = s.shelf.cache.entries.length ∧
      (passes.flatMap Pass.keys).Nodup ∧
      (∀ key, key ∈ passes.flatMap Pass.keys ↔
        ∃ e ∈ s.shelf.cache.entries, e.key = key ∧ ∃ now ∈ successes log, s.shelf.cache.ttl < now - e.lastAccess) ∧
      records.flatMap Journal.Record.evictedKeys = (passes.flatMap Pass.keys).map .string ∧
      records.countP Journal.Record.tellsFailedSweep = passes.count .failed := by
  intro passes left log
  have swept : Swept s.shelf.cache log left := sweep_swept waits s.shelf.clock s.shelf.cache
  have each : passes.length = waits.length := sweep_length waits s.shelf.clock s.shelf.cache
  have logged : log.map Prod.snd = passes := List.map_snd_zip (by rw [readings_length, each])
  have keys : (log.flatMap fun entry => entry.2.keys) = passes.flatMap Pass.keys := by
    rw [← logged, List.flatMap_map]
  have counts : (log.map fun entry => entry.2.keys.length) = passes.map fun pass => pass.keys.length := by
    rw [← logged, List.map_map]
    rfl
  refine ⟨(passes.flatMap Shelf.notesOf).map (·.record s.store.now), ?_, each, swept, swept.kept, ?_, ?_, ?_,
    Shelf.evictedKeys_notesOf _ passes, Shelf.failures_notesOf _ passes⟩
  · rw [onShelf_records, Shelf.step_sweep_of_inReach inReach]
  · rw [← counts]
    exact swept.count
  · rw [← keys]
    exact swept.keys_nodup distinct
  · rw [← keys]
    exact swept.mem_keys distinct

/-- A pass to which everything would have seemed too old could not tell one of the ages, and another could not tell the time. -/
theorem sweep_settles_past_failures :
    let _ : Reach Int := ⟨fun _ _ => true, fun now before => now - before < 50⟩
    let s : System Int := { (Host.fresh .default).system with
      shelf := ⟨⟨10, 1, [⟨"2023-4", [1], 0⟩, ⟨"2023-5", [2], 8⟩, ⟨"2023-6", [], 30⟩]⟩, 0, true⟩ }
    let waits : List (Wait Int) := [.passes 5, .passes 60, .clockFails, .passes (-54), .passes (-4)]
    s.shelf.cache.Distinct ∧ Shelf.waitsInReach 0 waits = waits ∧
      (s.shelf.cache.sweep waits 0).1 = [.evicted [], .failed, .failed, .evicted ["2023-4"], .evicted []] ∧
      ∃ records, onShelf (.sweep waits) s = (.ok .done, { s with
          store := { s.store with journal := s.store.journal ++ records },
          shelf := ⟨⟨10, 1, [⟨"2023-5", [2], 8⟩, ⟨"2023-6", [], 30⟩]⟩, 7, true⟩ }) ∧
        records.countP Journal.Record.tellsFailedSweep = 2 := by
  intro _ s waits
  have distinct : s.shelf.cache.Distinct := by
    change ["2023-4", "2023-5", "2023-6"].Nodup
    decide
  obtain ⟨records, ran, -, -, -, -, -, -, -, failures⟩ := sweep_settles s distinct waits rfl
  exact ⟨distinct, rfl, rfl, records, ran, failures⟩

end System
end Passbook
