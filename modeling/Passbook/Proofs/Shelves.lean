import Mathlib
import Passbook.Shelf

/-! What the steps of a cache and of its shelf make of the entries, told by membership. The keys of a cache are distinct, so that an
entry is known by its key, and where times can always be subtracted no step stops at an age that cannot be told. -/
namespace Passbook

class Reach.Unbounded (τ : Type) [Reach τ] : Prop where
  canAdd : ∀ a b : τ, Reach.canAdd a b = true
  canSubtract : ∀ a b : τ, Reach.canSubtract a b = true

theorem Reach.Unbounded.everywhere (τ : Type) : @Reach.Unbounded τ (.everywhere τ) :=
  let _ : Reach τ := .everywhere τ
  ⟨fun _ _ => rfl, fun _ _ => rfl⟩

namespace Cache
variable {τ β : Type} {c : Cache τ β} {now : τ} {key : String} {value : β} {e : Cached τ β}

def Distinct (c : Cache τ β) : Prop := (c.entries.map Cached.key).Nodup

theorem Distinct.of_sublist {entries : List (Cached τ β)} (distinct : c.Distinct) (fewer : entries.Sublist c.entries) :
    Distinct { c with entries } :=
  List.Nodup.sublist (fewer.map Cached.key) distinct

theorem Distinct.of_map {change : Cached τ β → Cached τ β} (distinct : c.Distinct) (same : ∀ e, (change e).key = e.key) :
    Distinct { c with entries := c.entries.map change } := by
  have keys : (c.entries.map change).map Cached.key = c.entries.map Cached.key := by
    rw [List.map_map]
    exact List.map_congr_left fun e _ => same e
  unfold Distinct
  rwa [keys]

theorem find?_eq_some (found : c.find? key = some e) : e ∈ c.entries ∧ e.key = key :=
  ⟨List.mem_of_find?_eq_some found, by simpa using List.find?_some found⟩

theorem find?_eq_none : c.find? key = none ↔ ∀ e ∈ c.entries, e.key ≠ key := by
  simp [find?]

theorem Distinct.eq_of_key (distinct : c.Distinct) {e' : Cached τ β} (there : e ∈ c.entries) (there' : e' ∈ c.entries)
    (same : e.key = e'.key) : e = e' :=
  List.inj_on_of_nodup_map distinct there there' same

theorem Distinct.find?_of_mem (distinct : c.Distinct) (there : e ∈ c.entries) (keyed : e.key = key) : c.find? key = some e := by
  cases found : c.find? key with
  | none => exact absurd keyed (find?_eq_none.mp found e there)
  | some e' =>
    obtain ⟨there', keyed'⟩ := find?_eq_some found
    rw [distinct.eq_of_key there there' (keyed.trans keyed'.symm)]

theorem mem_remove : e ∈ (c.remove key).entries ↔ e ∈ c.entries ∧ e.key ≠ key := by
  simp [remove]

theorem Distinct.remove (distinct : c.Distinct) : (c.remove key).Distinct :=
  distinct.of_sublist List.filter_sublist

theorem mem_set : e ∈ (c.set now key value).entries ↔ e = ⟨key, value, now⟩ ∨ e ∈ c.entries ∧ e.key ≠ key := by
  unfold set
  cases found : c.find? key with
  | none =>
    have absent := find?_eq_none.mp found
    simp only [Option.isSome_none, Bool.false_eq_true, if_false, List.mem_append, List.mem_singleton]
    constructor
    · rintro (there | new)
      · exact .inr ⟨there, absent e there⟩
      · exact .inl new
    · rintro (new | ⟨there, -⟩)
      · exact .inr new
      · exact .inl there
  | some e₀ =>
    obtain ⟨there₀, keyed⟩ := find?_eq_some found
    simp only [Option.isSome_some, if_true, List.mem_map]
    constructor
    · rintro ⟨old, there, rfl⟩
      by_cases here : old.key = key
      · exact .inl (if_pos here)
      · rw [if_neg here]
        exact .inr ⟨there, here⟩
    · rintro (rfl | ⟨there, other⟩)
      · exact ⟨e₀, there₀, if_pos keyed⟩
      · exact ⟨e, there, if_neg other⟩

theorem Distinct.set (distinct : c.Distinct) : (c.set now key value).Distinct := by
  unfold Cache.set
  cases found : c.find? key with
  | none =>
    have absent := find?_eq_none.mp found
    unfold Distinct
    simp only [Option.isSome_none, Bool.false_eq_true, if_false, List.map_append, List.map_cons, List.map_nil]
    refine List.nodup_append.mpr ⟨distinct, List.nodup_singleton key, ?_⟩
    intro k among k' new same
    obtain ⟨e, there, rfl⟩ := List.mem_map.mp among
    exact absent e there (same.trans (List.mem_singleton.mp new))
  | some e₀ =>
    refine distinct.of_map fun e => ?_
    by_cases here : e.key = key
    · rw [if_pos here, here]
    · rw [if_neg here]

theorem find?_set_self (c : Cache τ β) (now : τ) (key : String) (value : β) :
    (c.set now key value).find? key = some ⟨key, value, now⟩ := by
  unfold set
  cases found : c.find? key with
  | none =>
    unfold find? at found ⊢
    simp [found]
  | some e =>
    obtain ⟨_, keyed⟩ := find?_eq_some found
    have same :
        ((fun e : Cached τ β => e.key == key) ∘ fun e => if e.key = key then ⟨key, value, now⟩ else e) = fun e => e.key == key := by
      funext e
      by_cases here : e.key = key <;> simp [here]
    unfold find? at found ⊢
    simp only [Option.isSome_some, if_true]
    rw [List.find?_map, same, found, Option.map_some, if_pos keyed]

variable [Sub τ] [LT τ] [DecidableLT τ]

theorem get_cases (c : Cache τ β) (now : τ) (key : String) :
    (c.find? key = none ∧ c.get now key = (none, c)) ∨
      (∃ e, c.find? key = some e ∧ c.isExpired now e = true ∧ c.get now key = (none, c.remove key)) ∨
      ∃ e, c.find? key = some e ∧ c.isExpired now e = false ∧ c.get now key =
        (some e.value, { c with entries := c.entries.map fun e => if e.key = key then { e with lastAccess := now } else e }) := by
  unfold get
  cases found : c.find? key with
  | none => exact .inl ⟨rfl, rfl⟩
  | some e =>
    cases age : c.isExpired now e with
    | true => exact .inr (.inl ⟨e, rfl, age, if_pos age⟩)
    | false => exact .inr (.inr ⟨e, rfl, age, if_neg (by simp [age])⟩)

theorem get_of_not_contains (absent : c.contains now key = false) : (c.get now key).1 = none := by
  rcases get_cases c now key with ⟨_, got⟩ | ⟨_, _, _, got⟩ | ⟨e, found, young, got⟩ <;> rw [got]
  unfold contains at absent
  rw [found] at absent
  simp [young] at absent

theorem get_set_self (young : ¬ c.ttl < now - now) : ((c.set now key value).get now key).1 = some value := by
  have lasting : (c.set now key value).ttl = c.ttl := by
    unfold set
    split <;> rfl
  have live : (c.set now key value).isExpired now ⟨key, value, now⟩ = false := by
    rw [isExpired, lasting]
    exact decide_eq_false young
  unfold get
  rw [find?_set_self]
  simp [live]

theorem Distinct.get (distinct : c.Distinct) (now : τ) (key : String) : (c.get now key).2.Distinct := by
  rcases get_cases c now key with ⟨_, got⟩ | ⟨e, _, _, got⟩ | ⟨e, _, _, got⟩ <;> rw [got]
  · exact distinct
  · exact distinct.remove
  · refine distinct.of_map fun e => ?_
    split <;> rfl

def Live (c : Cache τ β) (now : τ) (key : String) (value : β) : Prop :=
  ∃ e ∈ c.entries, e.key = key ∧ e.value = value ∧ c.isExpired now e = false

theorem Distinct.live_iff (distinct : c.Distinct) (found : c.find? key = some e) :
    c.Live now key value ↔ e.value = value ∧ c.isExpired now e = false := by
  obtain ⟨there, keyed⟩ := find?_eq_some found
  constructor
  · rintro ⟨e', there', keyed', held, young⟩
    cases distinct.eq_of_key there there' (keyed.trans keyed'.symm)
    exact ⟨held, young⟩
  · rintro ⟨held, young⟩
    exact ⟨e, there, keyed, held, young⟩

theorem not_live (absent : c.find? key = none) : ¬ c.Live now key value := by
  rintro ⟨e, there, keyed, -⟩
  exact find?_eq_none.mp absent e there keyed

theorem Distinct.get_eq_some (distinct : c.Distinct) : (c.get now key).1 = some value ↔ c.Live now key value := by
  rcases get_cases c now key with ⟨found, got⟩ | ⟨e, found, age, got⟩ | ⟨e, found, age, got⟩ <;> rw [got]
  · simp [not_live found]
  · simp [distinct.live_iff found, age]
  · simp [distinct.live_iff found, age]

theorem Distinct.contains_iff (distinct : c.Distinct) : c.contains now key = true ↔ ∃ value, c.Live now key value := by
  unfold contains
  cases found : c.find? key with
  | none => simp [not_live found]
  | some e => simp [distinct.live_iff found]

theorem Distinct.mem_get (distinct : c.Distinct) :
    e ∈ (c.get now key).2.entries ↔ e ∈ c.entries ∧ e.key ≠ key ∨ ∃ value, c.Live now key value ∧
      e = ⟨key, value, now⟩ := by
  rcases get_cases c now key with ⟨found, got⟩ | ⟨old, found, age, got⟩ | ⟨old, found, age, got⟩ <;> rw [got]
  · have absent := find?_eq_none.mp found
    simpa [not_live found] using absent e
  · simp [distinct.live_iff found, age, mem_remove]
  · obtain ⟨there, keyed⟩ := find?_eq_some found
    simp only [distinct.live_iff found, age, and_true, List.mem_map, exists_eq_left']
    constructor
    · rintro ⟨e', there', rfl⟩
      by_cases here : e'.key = key
      · cases distinct.eq_of_key there there' (keyed.trans here.symm)
        rw [if_pos here, ← here]
        exact .inr rfl
      · rw [if_neg here]
        exact .inl ⟨there', here⟩
    · rintro (⟨there', other⟩ | rfl)
      · exact ⟨e, there', if_neg other⟩
      · exact ⟨old, there, by rw [if_pos keyed, ← keyed]⟩

theorem mem_evict : e ∈ (c.evict now).2.entries ↔ e ∈ c.entries ∧ c.isExpired now e = false := by
  simp [evict]

theorem Distinct.evict (distinct : c.Distinct) (now : τ) : (c.evict now).2.Distinct :=
  distinct.of_sublist List.filter_sublist

omit [Sub τ] [LT τ] [DecidableLT τ] in
theorem tellsAges_of_unbounded [Reach τ] [Reach.Unbounded τ] (c : Cache τ β) (now : τ) (key? : Option String) :
    c.tellsAges now key? = true := by
  simp [tellsAges, Reach.Unbounded.canSubtract]

theorem mem_sweep [Add τ] [Reach τ] [Reach.Unbounded τ] {waits : List (Wait τ)} (there : e ∈ (c.sweep waits now).2.2.entries) :
    e ∈ c.entries := by
  induction waits generalizing c now with
  | nil => exact there
  | cons wait waits ih =>
    cases wait with
    | clockFails => exact ih there
    | passes time =>
      simp only [sweep, tellsAges_of_unbounded, if_true] at there
      exact (mem_evict.mp (ih there)).1

end Cache

namespace Shelf

def Step.Fills {τ : Type} : Step τ → Prop
  | .set _ _ => True
  | _ => False

variable {τ : Type} [Add τ] [Sub τ] [LT τ] [DecidableLT τ] [Reach τ] [Reach.Unbounded τ] (shelf : Shelf τ)

omit [Sub τ] [LT τ] [DecidableLT τ] in
theorem waitsInReach_eq (clock : τ) (waits : List (Cache.Wait τ)) : waitsInReach clock waits = waits := by
  induction waits generalizing clock with
  | nil => rfl
  | cons wait waits ih =>
    cases wait with
    | clockFails => rw [waitsInReach, ih]
    | passes time => rw [waitsInReach, if_pos (Reach.Unbounded.canAdd clock time), ih]

theorem step_get (key : String) :
    shelf.step (.get key) =
      (match (shelf.cache.get shelf.clock key).1 with
        | some value => .ok (.bytes value)
        | none => .error (.ledger (.reportNotFound key)),
        [], { shelf with cache := (shelf.cache.get shelf.clock key).2 }) :=
  if_pos (shelf.cache.tellsAges_of_unbounded shelf.clock (some key))

theorem step_contains (key : String) :
    shelf.step (.contains key) = (.ok (.truth (shelf.cache.contains shelf.clock key)), [], shelf) :=
  if_pos (shelf.cache.tellsAges_of_unbounded shelf.clock (some key))

theorem step_evict :
    shelf.step .evict = (.ok (.number (shelf.cache.evict shelf.clock).1.length), notesOf (.evicted (shelf.cache.evict shelf.clock).1),
      { shelf with cache := (shelf.cache.evict shelf.clock).2 }) :=
  if_pos (shelf.cache.tellsAges_of_unbounded shelf.clock none)

theorem step_advance (time : τ) : shelf.step (.advance time) = (.ok .done, [], { shelf with clock := shelf.clock + time }) :=
  if_pos (Reach.Unbounded.canAdd shelf.clock time)

theorem step_sweep (waits : List (Cache.Wait τ)) :
    shelf.step (.sweep waits) =
      (.ok .done, (shelf.cache.sweep waits shelf.clock).1.flatMap notesOf,
        { shelf with clock := (shelf.cache.sweep waits shelf.clock).2.1, cache := (shelf.cache.sweep waits shelf.clock).2.2 }) := by
  simp only [step, waitsInReach_eq, if_true]

theorem mem_step {s : Step τ} (plain : ¬ s.Fills) {e : Cached τ Bytes} (there : e ∈ (shelf.step s).2.2.cache.entries) :
    ∃ old ∈ shelf.cache.entries, old.key = e.key ∧ old.value = e.value := by
  have kept (among : e ∈ shelf.cache.entries) : ∃ old ∈ shelf.cache.entries, old.key = e.key ∧ old.value = e.value :=
    ⟨e, among, rfl, rfl⟩
  cases s with
  | set key value => exact absurd trivial plain
  | get key =>
    rw [step_get] at there
    rcases Cache.get_cases shelf.cache shelf.clock key with ⟨_, got⟩ | ⟨_, _, _, got⟩ | ⟨_, _, _, got⟩ <;> rw [got] at there
    · exact kept there
    · exact kept (Cache.mem_remove.mp there).1
    · obtain ⟨old, among, rfl⟩ := List.mem_map.mp there
      refine ⟨old, among, ?_⟩
      split <;> exact ⟨rfl, rfl⟩
  | contains key =>
    rw [step_contains] at there
    exact kept there
  | delete key => exact kept (Cache.mem_remove.mp there).1
  | evict =>
    rw [step_evict] at there
    exact kept (Cache.mem_evict.mp there).1
  | advance time =>
    rw [step_advance] at there
    exact kept there
  | sweep waits =>
    rw [step_sweep] at there
    exact kept (Cache.mem_sweep there)
  | size => exact kept there
  | start => exact kept there
  | stop => exact kept there
  | isRunning => exact kept there

end Shelf
end Passbook
