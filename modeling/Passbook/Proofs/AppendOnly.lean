import Passbook.Proofs.Courses
import Passbook.Proofs.Fresh
import Passbook.Proofs.Stamps
import Passbook.Proofs.Writes

/-! The transaction log of a ledger that is brought up to date and never migrated again. Entries are only ever added, and their ids
count up from one without a gap. While the clock does not go back, the order of their times is that of their ids. -/
namespace Passbook
open LogRows Time

namespace Books

/-- The log is guarded, and its ids are those given out so far, one after the other. -/
structure Gapless (b : Books) : Prop where
  guarded : b.log.Guarded
  counted : b.log.lastId = b.entries.length
  ids : b.entries.map Entry.id = (List.range b.entries.length).map fun i : Nat => (i : Int) + 1

/-- The times of the entries follow their ids, and none lies after what the clock shows. -/
structure Timely (now : Reading) (b : Books) : Prop where
  ordered : b.entries.Pairwise fun e e' => e.createdAt ≤ e'.createdAt
  past : ∀ e ∈ b.entries, (e.createdAt.micros : Int) ≤ now.moment

section
variable {b b' : Books} {free : Direct → Prop} {now : Reading} {deferred : Bool}

theorem Gapless.writes (gapless : b.Gapless) (writes : b.Writes free now deferred b') :
    b'.Gapless ∧ b.entries <+: b'.entries := by
  have entries : b'.entries = b'.log.entries := rfl
  rcases writes.log with same | ⟨entry, next, _, added⟩
  · rw [same] at entries
    refine ⟨⟨writes.guarded gapless.guarded, ?_, ?_⟩, entries ▸ List.prefix_rfl⟩
    · rw [same, entries]
      exact gapless.counted
    · rw [entries]
      exact gapless.ids
  · rw [added] at entries
    refine ⟨⟨writes.guarded gapless.guarded, ?_, ?_⟩, entries ▸ List.prefix_append _ _⟩
    · rw [added, entries, List.length_append, gapless.counted]
      rfl
    · rw [entries, List.map_append, List.length_append, List.map_singleton, List.length_singleton, List.range_succ, List.map_append,
        gapless.ids, next, gapless.counted]
      rfl

theorem Gapless.ascending (gapless : b.Gapless) : Rows.Ascending Entry.id b.entries := by
  have ids : (b.entries.map Entry.id).Pairwise (· < ·) := by
    rw [gapless.ids]
    refine List.pairwise_map.mpr (List.pairwise_lt_range.imp fun below => ?_)
    omega
  exact List.pairwise_map.mp ids

theorem Timely.writes (timely : b.Timely now) (writes : b.Writes free now deferred b') : b'.Timely now := by
  have entries : b'.entries = b'.log.entries := rfl
  rcases writes.log with same | ⟨entry, _, shown, added⟩
  · rw [same] at entries
    exact ⟨entries ▸ timely.ordered, entries ▸ timely.past⟩
  · rw [added] at entries
    have atNow := Reading.moment_of_instant shown
    constructor
    · rw [entries]
      refine List.pairwise_append.mpr ⟨timely.ordered, List.pairwise_singleton _ _, ?_⟩
      intro old among new isNew
      rw [List.mem_singleton.mp isNew]
      have := timely.past old among
      change old.createdAt.micros ≤ entry.createdAt.micros
      omega
    · rw [entries]
      intro e among
      rcases List.mem_append.mp among with among | isNew
      · exact timely.past e among
      · rw [List.mem_singleton.mp isNew]
        exact atNow.le

theorem Timely.later {now' : Reading} (moved : now.NotAfter now') (timely : b.Timely now) : b.Timely now' :=
  ⟨timely.ordered, fun e among => (timely.past e among).trans moved⟩

end

theorem fresh_gapless : fresh.Gapless := ⟨⟨rfl, rfl⟩, rfl, rfl⟩

theorem fresh_timely (now : Reading) : fresh.Timely now := ⟨.nil, fun _ among => nomatch among⟩

end Books

section Listing
variable {entries : List (Entry Instant)} {a b : Entry Instant}

theorem LogRows.notAfter_none : notAfter none a b = true ↔ a.id ≤ b.id := by
  simp [notAfter, compareBy, Int.isLE_compare]

theorem LogRows.notAfter_date : notAfter (some .date) a b = true ↔
    a.createdAt.micros < b.createdAt.micros ∨ a.createdAt.micros = b.createdAt.micros ∧ a.id ≤ b.id := by
  simp only [notAfter, compareBy]
  rcases Nat.lt_trichotomy a.createdAt.micros b.createdAt.micros with below | same | above
  · simp [Nat.compare_eq_lt.mpr below, below]
  · simp [same, Int.isLE_compare]
  · have : ¬ a.createdAt.micros < b.createdAt.micros := by omega
    have : ¬ a.createdAt.micros = b.createdAt.micros := by omega
    simp [Nat.compare_eq_gt.mpr above, *]

/-- Entries that stand in the order of a field, with no two of one rank, stay as they are or are turned round. -/
theorem LogRows.sorted_eq {field : Option SortField} (direction : Direction)
    (trans : ∀ a b c, notAfter field a b = true → notAfter field b c = true → notAfter field a c = true)
    (total : ∀ a b, (notAfter field a b || notAfter field b a) = true) (stand : entries.Pairwise fun a b => notAfter field a b = true)
    (apart : ∀ a ∈ entries, ∀ b ∈ entries, notAfter field a b = true → notAfter field b a = true → a = b) :
    sorted field direction entries = match direction with
      | .ascending => entries
      | .descending => entries.reverse := by
  cases direction with
  | ascending => exact List.mergeSort_of_pairwise stand
  | descending =>
    have turned : entries.reverse.Pairwise fun a b => notAfter field b a = true := List.pairwise_reverse.mpr stand
    refine List.Perm.eq_of_pairwise ?_ ?_ turned ((List.mergeSort_perm _ _).trans (List.reverse_perm entries).symm)
    · intro a b left right below above
      exact apart a ((List.mergeSort_perm _ _).mem_iff.mp left) b (List.mem_reverse.mp right) above below
    · exact List.pairwise_mergeSort (fun a b c first second => trans c b a second first) (fun a b => total b a) entries

theorem LogRows.sorted_date (direction : Direction) (ascending : Rows.Ascending Entry.id entries)
    (ordered : entries.Pairwise fun e e' => e.createdAt ≤ e'.createdAt) :
    sorted (some .date) direction entries = sorted none direction entries := by
  have byId : sorted none direction entries = _ := sorted_eq direction
    (fun a b c => by simp only [notAfter_none]; omega) (fun a b => by simp only [Bool.or_eq_true, notAfter_none]; omega)
    (ascending.imp fun below => notAfter_none.mpr below.le)
    (fun a left b right below above => ascending.unique left right (by simp only [notAfter_none] at below above; omega))
  have stand : entries.Pairwise fun e e' => notAfter (some .date) e e' = true := by
    refine (ascending.and ordered).imp fun {e e'} ⟨below, before⟩ => notAfter_date.mpr ?_
    have before : e.createdAt.micros ≤ e'.createdAt.micros := before
    omega
  have byDate : sorted (some .date) direction entries = _ := sorted_eq direction
    (fun a b c => by simp only [notAfter_date]; omega) (fun a b => by simp only [Bool.or_eq_true, notAfter_date]; omega)
    stand
    (fun a left b right below above => ascending.unique left right (by simp only [notAfter_date] at below above; omega))
  rw [byId, byDate]

theorem LogRows.page_date {b : Books} (ascending : Rows.Ascending Entry.id b.entries)
    (ordered : b.entries.Pairwise fun e e' => e.createdAt ≤ e'.createdAt) (account : Int) (direction : Direction)
    (limit offset : Option Int) (deferred : Bool) :
    page account (some .date) direction limit offset deferred b.tables = page account none direction limit offset deferred b.tables := by
  have same : sorted (some .date) direction (b.log.entries.filter (involves account)) =
      sorted none direction (b.log.entries.filter (involves account)) :=
    sorted_date direction (List.Pairwise.filter _ ascending) (List.Pairwise.filter _ ordered)
  unfold page
  simp only [logOf_tables, ok_bind, same]

theorem Act.bind_congr {σ α β : Type} {act act' : Act σ α} {next : α → Act σ β} {s : σ} (same : act s = act' s) :
    (act >>= next) s = (act' >>= next) s := by
  change Act.bind act next s = Act.bind act' next s
  unfold Act.bind
  rw [same]

theorem Work.inUnit_congr {δ α : Type} [Keyed δ] {w w' : Work δ α} {s : Store δ}
    (same : ∀ t : Store δ, t.content = s.content → w t = w' t) :
    inUnit w s = inUnit w' s := by
  cases status : s.status with
  | idle => rw [inUnit_eq status, inUnit_eq status, same { s with status := .busy s.content false } rfl]
  | busy saved deferred => rw [inUnit_refused s saved deferred status, inUnit_refused s saved deferred status]
  | closed => rw [inUnit_of_closed status, inUnit_of_closed status]

theorem Call.list_date {b : Books} (ascending : Rows.Ascending Entry.id b.entries)
    (ordered : b.entries.Pairwise fun e e' => e.createdAt ≤ e'.createdAt) {s : Store Database} (books : s.content.schema = b.tables)
    (account : Int) (direction : Direction) (limit offset : Option Int) :
    (Call.list account { limit, offset, sort := some .date, direction }).run false s =
      (Call.list account { limit, offset, sort := none, direction }).run false s := by
  have asked (t : Store Database) (here : t.content = s.content) :
      (History.list account { limit, offset, sort := some .date, direction }).body t =
        (History.list account { limit, offset, sort := none, direction }).body t := by
    refine Act.bind_congr ?_
    have page (deferred : Bool) : (LogRows.page account (some .date) direction limit offset).onSchema deferred t.content =
        (LogRows.page account none direction limit offset).onSchema deferred t.content := by
      unfold Statement.onSchema
      rw [here, books, LogRows.page_date ascending ordered]
    unfold LedgerWork.ask Work.execute
    simp only [page]
  have alone := Work.inUnit_congr asked
  exact Act.bind_congr (Act.bind_congr alone)

end Listing

/-- Of two contents, the log of the second goes on where that of the first ends. -/
def Database.Extends (c c' : Database) : Prop :=
  ∀ log, c.schema.log = some log → ∃ log', c'.schema.log = some log' ∧ log.entries <+: log'.entries

theorem Law.gapless {free : Direct → Prop} (orders : Reading → Books → Prop)
    (kept : ∀ {now deferred b b'}, orders now b → b.Writes free now deferred b' → orders now b') :
    Law (Given free) (fun now _ c => ∃ b : Books, c.schema = b.tables ∧ b.Gapless ∧ orders now b) Database.Extends where
  nothing _ log there := ⟨log, there, List.prefix_rfl⟩
  more grown grown' log there := by
    obtain ⟨log', there', added⟩ := grown log there
    obtain ⟨log'', there'', added'⟩ := grown' log' there'
    exact ⟨log'', there'', added.trans added'⟩
  statement given answered := by
    rintro ⟨b, books, gapless, ordered⟩
    obtain ⟨b', books', rfl | writes⟩ := given.writes gapless.guarded books answered
    · refine ⟨⟨b', books', gapless, ordered⟩, fun log there => ⟨log, ?_, List.prefix_rfl⟩⟩
      rw [books', ← books]
      exact there
    · obtain ⟨gapless', added⟩ := gapless.writes writes
      refine ⟨⟨b', books', gapless', kept ordered writes⟩, fun log there => ⟨b'.log, ?_, ?_⟩⟩
      · rw [books']
        rfl
      · rw [books] at there
        cases there
        exact added
  deferring holds := holds
  commit holds _ := holds

namespace Host
variable {τ : Type} [Add τ] [Sub τ] [LT τ] [DecidableLT τ] [Reach τ]

/-- From the tables of a new store on, whatever is asked for and whatever statements are given directly: the log of every committed
state goes on where that of an earlier one ends, and its ids are the numbers from one to that of its entries. If the clock never
goes back, the times of the entries follow their ids, as instants and as the texts that are stored, and so a listing by date is one
by id. -/
theorem runAll_appends (h : Host τ) (idle : h.system.store.status = .idle) (books : h.system.store.content.schema = Books.fresh.tables)
    (before after : List (Plan (Errand τ)))
    (ordinary : Plan.AllOf (Errand.Ordinary fun _ => True) before ∧ Plan.AllOf (Errand.Ordinary fun _ => True) after) :
    ∃ b₁ b₂ : Books, (runAll before h).system.store.content.schema = b₁.tables ∧
      (runAll (before ++ after) h).system.store.content.schema = b₂.tables ∧
      b₁.entries <+: b₂.entries ∧
      b₂.entries.map Entry.id = ((List.range b₂.entries.length).map fun i : Nat => (i : Int) + 1) ∧
      ((Chronicle.lived run (before ++ after) h).Timed Reading.NotAfter →
        (b₂.entries.Pairwise fun e e' => e.createdAt ≤ e'.createdAt ∧ e.createdAt.stamp ≤ e'.createdAt.stamp) ∧
        ∀ (account : Int) (direction : Direction) (limit offset : Option Int),
          (Call.list account { limit, offset, sort := some .date, direction }).run false (runAll (before ++ after) h).system.store =
            (Call.list account { limit, offset, sort := none, direction }).run false (runAll (before ++ after) h).system.store) := by
  have course : Course (run : Bool → Errand τ → HostAct τ Reply) (Errand.Ordinary fun _ => True) (fun _ _ => True) _ _ :=
    course_of_law (Law.gapless (fun _ _ => True) fun _ _ => trivial) (fun _ => trivial) (fun _ _ => trivial) (fun _ holds => holds)
  obtain ⟨here, there, first, rest⟩ := runAll_continues course before after ordinary h idle
    ⟨.fresh, books, Books.fresh_gapless, trivial⟩ fun _ _ => trivial
  obtain ⟨b₁, books₁, _⟩ := first.holds
  obtain ⟨b₂, books₂, gapless, _⟩ := rest.holds
  obtain ⟨_, _, grown⟩ := rest.kept
  have added : b₁.entries <+: b₂.entries := by
    obtain ⟨log, isLog, added⟩ := grown b₁.log (congrArg Tables.log books₁)
    cases isLog.symm.trans (congrArg Tables.log books₂)
    exact added
  refine ⟨b₁, b₂, here ▸ books₁, there ▸ books₂, added, gapless.ids, fun timed => ?_⟩
  have dated : Course (run : Bool → Errand τ → HostAct τ Reply) (Errand.Ordinary fun _ => True) Reading.NotAfter _ _ :=
    course_of_law (Law.gapless (fun now b => b.Timely now) fun timely writes => timely.writes writes) (fun r => le_refl r.moment)
      (fun first second => le_trans first second) (fun moved ⟨b, books, gapless, timely⟩ => ⟨b, books, gapless, timely.later moved⟩)
  obtain ⟨_, _, _, rest⟩ := runAll_continues dated before after ordinary h idle
    ⟨.fresh, books, Books.fresh_gapless, Books.fresh_timely _⟩ timed
  obtain ⟨b, booksB, _, timely⟩ := rest.holds
  cases Books.tables_injective (books₂.symm.trans booksB)
  constructor
  · refine timely.ordered.imp fun {e e'} before => ⟨before, fun stamps => ?_⟩
    exact Nat.not_lt.mpr before (Instant.stamp_lt_iff.mp stamps)
  · intro account direction limit offset
    exact Call.list_date gapless.ascending timely.ordered (there ▸ books₂) account direction limit offset

/-- An append that is undone, and a log that is to be cleared. -/
theorem runAll_appends_fresh :
    let _ : Reach Int := .everywhere Int
    let host : Host Int := .fresh .default
    let before : List (Plan (Errand Int)) := [
      .unit [.call (.call (.credit 1 5)) false false, .call (.fail (.foreign "stop")) false false] false false]
    let after : List (Plan (Errand Int)) := [
      .call (.call (.credit 1 7)) false false,
      .call (.call (.direct "execute" .deleteEntries)) false false]
    host.system.store.status = .idle ∧ host.system.store.content.schema = Books.fresh.tables ∧
      (Plan.AllOf (Errand.Ordinary fun _ => True) before ∧ Plan.AllOf (Errand.Ordinary fun _ => True) after) ∧
      ∃ b₁ b₂ : Books, (runAll before host).system.store.content.schema = b₁.tables ∧
        (runAll (before ++ after) host).system.store.content.schema = b₂.tables ∧
        b₁.entries <+: b₂.entries ∧
        b₂.entries.map Entry.id = (List.range b₂.entries.length).map fun i : Nat => (i : Int) + 1 := by
  intro _ host before after
  obtain ⟨_, rests, books⟩ := Store.fresh_keeps .default
  have ordinary : Plan.AllOf (Errand.Ordinary fun _ => True) before ∧ Plan.AllOf (Errand.Ordinary fun _ => True) after :=
    ⟨⟨⟨trivial, trivial, trivial⟩, trivial⟩, trivial, trivial, trivial⟩
  obtain ⟨b₁, b₂, here, there, added, ids, _⟩ := runAll_appends host rests.idle books before after ordinary
  exact ⟨rests.idle, books, ordinary, b₁, b₂, here, there, added, ids⟩

end Host
end Passbook
