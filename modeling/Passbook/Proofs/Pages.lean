import Passbook.Proofs.AppendOnly
import Passbook.Proofs.Statuses

/-! The history of an account, read page by page. The order asked for never leaves two entries undecided, so that pages of one size
cut one list into stretches that follow each other, and reading them up to the first empty one gives that list. -/
namespace Passbook
open LogRows Time

/-- Pages are read one after the other, from the `k`th on, until one of them is empty. Each of them tells the same total, and reading
changes nothing. -/
inductive Leafed {σ ε : Type} (read : Nat → Act σ (List ε × Nat)) (s : σ) (total : Nat) : Nat → List ε → Prop
  | done {k : Nat} (empty : read k s = (.ok ([], total), s)) : Leafed read s total k []
  | turned {k : Nat} {page rest : List ε} (filled : page ≠ []) (answers : read k s = (.ok (page, total), s))
      (goesOn : Leafed read s total (k + 1) rest) : Leafed read s total k (page ++ rest)

namespace Leafed
variable {σ ε : Type} {read : Nat → Act σ (List ε × Nat)} {s : σ} {k : Nat}

theorem unique {total : Nat} {items items' : List ε} (leafed : Leafed read s total k items) (leafed' : Leafed read s total k items') :
    items = items' := by
  induction leafed generalizing items' with
  | done empty =>
    cases leafed' with
    | done _ => rfl
    | turned filled answers _ =>
      cases empty.symm.trans answers
      exact absurd rfl filled
  | turned filled answers _ ih =>
    cases leafed' with
    | done empty =>
      cases answers.symm.trans empty
      exact absurd rfl filled
    | turned _ answers' goesOn' =>
      cases answers.symm.trans answers'
      rw [ih goesOn']

theorem of_windows {items : List ε} {size : Nat} (positive : 0 < size)
    (answers : ∀ k, k * size < items.length + size → read k s = (.ok ((items.drop (k * size)).take size, items.length), s))
    (inside : k * size < items.length + size) : Leafed read s items.length k (items.drop (k * size)) := by
  -- What is left shrinks with every page but the last, which is empty.
  induction left : items.length - k * size using Nat.strong_induction_on generalizing k with
  | _ left ih =>
    have page := answers k inside
    rcases Nat.lt_or_ge (k * size) items.length with more | past
    · have next : (k + 1) * size = k * size + size := Nat.succ_mul k size
      have filled : (items.drop (k * size)).take size ≠ [] := by
        intro empty
        have := congrArg List.length empty
        simp only [List.length_take, List.length_drop, List.length_nil] at this
        omega
      have goesOn := ih (items.length - (k + 1) * size) (by omega) (k := k + 1) (by omega) rfl
      rw [next, ← List.drop_drop] at goesOn
      rw [← List.take_append_drop size (items.drop (k * size))]
      exact .turned filled page goesOn
    · have nothing : items.drop (k * size) = [] := List.drop_eq_nil_of_le past
      rw [nothing] at page ⊢
      rw [List.take_nil] at page
      exact .done page

end Leafed

namespace LogRows

def rank : Option SortField → Entry Instant → Int
  | none, _ => 0
  | some .date, e => e.createdAt.micros
  | some .sum, e => e.amount.whole

/-- By rank, and by id where ranks are equal, both in one direction. -/
def Before (field : Option SortField) : Direction → Entry Instant → Entry Instant → Prop
  | .ascending, a, b => rank field a < rank field b ∨ rank field a = rank field b ∧ a.id < b.id
  | .descending, a, b => rank field b < rank field a ∨ rank field b = rank field a ∧ b.id < a.id

def Measured (entries : List (Entry Instant)) : Prop := ∀ e ∈ entries, e.amount = .int e.amount.whole

section
variable {field : Option SortField} {direction : Direction} {entries : List (Entry Instant)} {a b : Entry Instant}

instance : Decidable (Before field direction a b) := match direction with
  | .ascending => inferInstanceAs (Decidable (_ ∨ _))
  | .descending => inferInstanceAs (Decidable (_ ∨ _))

theorem Before.asymm (first : Before field direction a b) (second : Before field direction b a) : a = b := by
  cases direction <;> simp only [Before] at first second <;> omega

theorem Before.reverse (ordered : entries.Pairwise (Before field .ascending)) :
    entries.reverse.Pairwise (Before field .descending) :=
  List.pairwise_reverse.mpr ordered

def ranked (field : Option SortField) (direction : Direction) (a b : Entry Instant) : Bool :=
  decide (Before field direction a b ∨ rank field a = rank field b ∧ a.id = b.id)

theorem ranked_iff : ranked field direction a b = true ↔ Before field direction a b ∨ rank field a = rank field b ∧ a.id = b.id :=
  decide_eq_true_iff

theorem notAfter_iff (left : a.amount = .int a.amount.whole) (right : b.amount = .int b.amount.whole) :
    notAfter field a b = true ↔ rank field a < rank field b ∨ rank field a = rank field b ∧ a.id ≤ b.id := by
  match field with
  | none => simp [notAfter_none, rank]
  | some .date => simp [notAfter_date, rank]
  | some .sum =>
    have compared : compareBy (some .sum) a b = compare a.amount.whole b.amount.whole := by
      simp only [compareBy]
      rw [left, right]
      rfl
    unfold notAfter rank
    rw [compared]
    rcases Int.lt_trichotomy a.amount.whole b.amount.whole with below | same | above
    · simp [Int.compare_eq_lt.mpr below, below]
    · simp [same, Int.isLE_compare]
    · have less : ¬ a.amount.whole < b.amount.whole := by omega
      have apart : ¬ a.amount.whole = b.amount.whole := by omega
      simp [Int.compare_eq_gt.mpr above, less, apart]

theorem sorted_eq_mergeSort (measured : Measured entries) :
    sorted field direction entries = entries.mergeSort (ranked field direction) := by
  -- Sorting only ever compares entries of the list.
  have agreeing (le : Entry Instant → Entry Instant → Bool)
      (agree : ∀ a ∈ entries, ∀ b ∈ entries, le a b = ranked field direction a b) :
      entries.mergeSort le = entries.mergeSort (ranked field direction) := by
    simpa using List.map_mergeSort (f := id) agree
  cases direction with
  | ascending =>
    refine agreeing _ fun a left b right => Bool.eq_iff_iff.mpr ?_
    rw [notAfter_iff (measured a left) (measured b right), ranked_iff]
    simp only [Before]
    omega
  | descending =>
    refine agreeing _ fun a left b right => Bool.eq_iff_iff.mpr ?_
    rw [notAfter_iff (measured b right) (measured a left), ranked_iff]
    simp only [Before]
    omega

theorem sorted_perm : (sorted field direction entries).Perm entries := by
  cases direction <;> exact List.mergeSort_perm _ _

theorem sorted_ordered (measured : Measured entries) (ascending : Rows.Ascending Entry.id entries) :
    (sorted field direction entries).Pairwise (Before field direction) := by
  have trans (a b c : Entry Instant) : ranked field direction a b = true → ranked field direction b c = true →
      ranked field direction a c = true := by
    simp only [ranked_iff]
    cases direction <;> simp only [Before] <;> omega
  have total (a b : Entry Instant) : (ranked field direction a b || ranked field direction b a) = true := by
    simp only [Bool.or_eq_true, ranked_iff]
    cases direction <;> simp only [Before] <;> omega
  have ids : ((sorted field direction entries).map Entry.id).Nodup := (sorted_perm.map _).nodup_iff.mpr ascending.nodup
  have apart := List.pairwise_map.mp ids
  rw [sorted_eq_mergeSort measured] at apart ⊢
  refine ((List.pairwise_mergeSort trans total entries).and apart).imp fun {a b} ⟨before, differ⟩ => ?_
  rcases ranked_iff.mp before with before | ⟨_, same⟩
  · exact before
  · exact absurd same differ

end

end LogRows

namespace Books

/-- The entries that an account sends or receives, each as often as the log has it, in strict order. -/
structure Arranged (b : Books) (account : Int) (field : Option SortField) (direction : Direction) (all : List (Entry Instant)) :
    Prop where
  each : all.Perm (b.entries.filter fun e => e.sender = account ∨ e.receiver = account)
  once : all.Nodup
  ordered : all.Pairwise (Before field direction)
  measured : Measured all

def history (b : Books) (account : Int) (field : Option SortField) (direction : Direction) : List (Entry Instant) :=
  sorted field direction (b.entries.filter (involves account))

section
variable {b b' : Books} {account : Int} {field : Option SortField} {direction : Direction}

theorem Arranged.unique {all all' : List (Entry Instant)} (arranged : b.Arranged account field direction all)
    (arranged' : b.Arranged account field direction all') : all = all' :=
  List.Perm.eq_of_pairwise (fun _ _ _ _ => Before.asymm) arranged.ordered arranged'.ordered (arranged.each.trans arranged'.each.symm)

theorem Arranged.reverse {all : List (Entry Instant)} (arranged : b.Arranged account field .ascending all) :
    b.Arranged account field .descending all.reverse :=
  ⟨(List.reverse_perm all).trans arranged.each, List.nodup_reverse.mpr arranged.once, Before.reverse arranged.ordered,
    fun e among => arranged.measured e (List.mem_reverse.mp among)⟩

theorem Gapless.history_arranged (gapless : b.Gapless) (measured : Measured b.entries) (account : Int) (field : Option SortField)
    (direction : Direction) : b.Arranged account field direction (b.history account field direction) := by
  have ascending : Rows.Ascending Entry.id (b.entries.filter (involves account)) := List.Pairwise.filter _ gapless.ascending
  have measured : Measured (b.entries.filter (involves account)) := fun e among => measured e (List.mem_of_mem_filter among)
  have chosen : involves account = fun e => decide (e.sender = account ∨ e.receiver = account) := by
    funext e
    simp [involves, Bool.decide_or, beq_eq_decide]
  exact {
    each := chosen ▸ sorted_perm
    once := sorted_perm.nodup_iff.mpr (List.Nodup.of_map _ ascending.nodup)
    ordered := sorted_ordered measured ascending
    measured := fun e among => measured e (sorted_perm.mem_iff.mp among) }

theorem Gapless.history_descending (gapless : b.Gapless) (measured : Measured b.entries) (account : Int) (field : Option SortField) :
    b.history account field .descending = (b.history account field .ascending).reverse :=
  (gapless.history_arranged measured account field .descending).unique
    (gapless.history_arranged measured account field .ascending).reverse

theorem length_history : (b.history account field direction).length = (b.entries.filter (involves account)).length :=
  sorted_perm.length_eq

theorem Writes.measured {free : Direct → Prop} {now : Reading} {deferred : Bool} (writes : b.Writes free now deferred b')
    (measured : Measured b.entries) : Measured b'.entries := by
  cases writes with
  | posted kind sender receiver amount description shown low known =>
    intro e among
    rcases List.mem_append.mp among with among | isNew
    · exact measured e among
    · rw [List.mem_singleton.mp isNew]
      rfl
  | _ => exact measured

end

end Books

theorem Work.inUnit_unchanged {δ α : Type} [Keyed δ] {w : Work δ α} {s : Store δ} (idle : s.status = .idle)
    {outcome : Except Failure α}
    (worked : w { s with status := .busy s.content false } = (outcome, { s with status := .busy s.content false })) :
    inUnit w s = (outcome, s) := by
  obtain ⟨content, status, now, journal⟩ := s
  cases idle
  rw [inUnit_eq rfl, worked]
  cases outcome <;> rfl

theorem LedgerWork.ask_unchanged {α : Type} (operation : String) {query : AccountRows.Query α} {b : Books} {saved : Database}
    {deferred : Bool} {s : Store Database} {a : α} (busy : s.status = .busy saved deferred) (books : s.content.schema = b.tables)
    (answers : query deferred b.tables = .ok (a, b.tables)) : ask operation query s = (.ok a, s) := by
  rw [ask_eq operation query busy books, answers]
  dsimp only
  rw [← books]

namespace History
variable {b : Books} {s : Store Database} {account limit offset : Int} {listing : Listing}

theorem list_body {saved : Database} {deferred : Bool} (busy : s.status = .busy saved deferred) (books : s.content.schema = b.tables)
    (limited : listing.limit = some limit) (placed : listing.offset = some offset) :
    (list account listing).body s = ((Outcome.list b account listing limit offset).mapError .ledger, s) := by
  have page : LogRows.page account listing.sort listing.direction (some limit) (some offset) deferred b.tables = _ := page_tables deferred
  rw [← limited, ← placed] at page
  unfold Outcome.list
  by_cases fits : fitsInteger account = true ∧ fitsInteger limit = true ∧ fitsInteger offset = true
  · rw [if_pos fits] at page ⊢
    refine (Act.bind_of_ok (LedgerWork.ask_unchanged "list transactions" busy books page)).trans ?_
    exact Act.bind_of_ok (LedgerWork.ask_unchanged "count transactions" busy books (count_tables fits.1 deferred))
  · rw [if_neg fits] at page ⊢
    refine Act.bind_of_error ?_
    rw [LedgerWork.ask_eq "list transactions" _ busy books, page]
    rfl

theorem list_alone (idle : s.status = .idle) (books : s.content.schema = b.tables) (limited : listing.limit = some limit)
    (placed : listing.offset = some offset) :
    (list account listing).alone s = ((Outcome.list b account listing limit offset).mapError .ledger, s) := by
  have ran := Work.inUnit_unchanged (w := (list account listing).body) idle
    (list_body (s := { s with status := .busy s.content false }) rfl books limited placed)
  cases listed : Outcome.list b account listing limit offset with
  | error e =>
    rw [listed] at ran
    exact Operation.within_of_failed rfl ran
  | ok answer =>
    rw [listed] at ran
    exact Act.bind_of_ok (s := s) ran

/-- The pages of one size, wherever in the order they begin, are the windows of one list; read one after the other from the first on,
up to the first empty one, they are that list and nothing else. -/
structure Partitioned (s : Store Database) (account : Int) (sort : Option SortField) (direction : Direction) (size : Int)
    (all : List (Entry Instant)) : Prop where
  window : ∀ offset : Int, 0 ≤ offset → fitsInteger offset = true →
    (list account { limit := some size, offset := some offset, sort, direction }).alone s =
      (.ok ((all.drop offset.toNat).take size.toNat, all.length), s)
  leafed : (∀ k : Nat, k * size < all.length + size → fitsInteger (k * size) = true) → ∀ entries,
    Leafed (fun k : Nat => (list account { limit := some size, offset := some (k * size), sort, direction }).alone) s
      all.length 0 entries ↔ entries = all

theorem partitioned (idle : s.status = .idle) (books : s.content.schema = b.tables) (named : fitsInteger account = true)
    (sort : Option SortField) (direction : Direction) {size : Int} (positive : 1 ≤ size) (sized : fitsInteger size = true) :
    Partitioned s account sort direction size (b.history account sort direction) := by
  have window (offset : Int) (low : 0 ≤ offset) (fits : fitsInteger offset = true) :
      (list account { limit := some size, offset := some offset, sort, direction }).alone s =
        (.ok (((b.history account sort direction).drop offset.toNat).take size.toNat, (b.history account sort direction).length), s) := by
    have unbounded : ¬ size < 0 := by omega
    rw [list_alone idle books rfl rfl, Outcome.list, if_pos ⟨named, sized, fits⟩, stretch, if_neg unbounded, Books.length_history]
    rfl
  refine ⟨window, fun fits entries => ?_⟩
  have leafed : Leafed (fun k : Nat => (list account { limit := some size, offset := some (k * size), sort, direction }).alone) s
      (b.history account sort direction).length 0 ((b.history account sort direction).drop (0 * size.toNat)) := by
    refine Leafed.of_windows (by omega) (fun k inside => ?_) (by omega)
    have start : ((k * size.toNat : Nat) : Int) = k * size := by
      rw [Int.natCast_mul, Int.toNat_of_nonneg (by omega)]
    have offset := window (k * size) (by omega) (fits k (by omega))
    rw [← start, Int.toNat_natCast] at offset
    rw [← start]
    exact offset
  rw [Nat.zero_mul, List.drop_zero] at leafed
  exact ⟨fun other => other.unique leafed, fun same => same ▸ leafed⟩

theorem list_oversized (idle : s.status = .idle) (books : s.content.schema = b.tables) (sort : Option SortField) (direction : Direction)
    {size : Int} (oversized : ¬ fitsInteger size = true) (offset : Int) :
    (list account { limit := some size, offset := some offset, sort, direction }).alone s =
      (.error (.ledger (.oversized "list transactions")), s) := by
  rw [list_alone idle books rfl rfl, Outcome.list, if_neg fun fits => oversized fits.2.1]
  rfl

theorem Listing.accepts {accepted : Int → Bool} {other : Int} (stands : accepted other = true) (n? : Option Int) :
    accepted ((n?.filter accepted).getD other) = true := by
  cases kept : n?.filter accepted with
  | none => exact stands
  | some n => exact (Option.filter_eq_some_iff.mp kept).2

theorem Listing.ofRequest_bounds {sort direction : Option String} {limit offset : Option Int}
    (read : Listing.ofRequest sort direction limit offset = .ok listing) :
    ∃ size first : Int, listing.limit = some size ∧ 1 ≤ size ∧ size ≤ 100 ∧ listing.offset = some first ∧ 0 ≤ first ∧
      ∀ other : Int, 0 ≤ other → Listing.ofRequest sort direction limit (some other) = .ok { listing with offset := some other } := by
  obtain ⟨limited, placed⟩ := Listing.ofRequest_eq_ok read
  have size := @Listing.accepts (fun n => 0 < n && n ≤ Listing.maxLimit) 10 rfl limit
  have first := @Listing.accepts (fun n => decide (0 ≤ n)) 0 rfl offset
  have most : Listing.maxLimit = 100 := rfl
  simp only [Bool.and_eq_true, decide_eq_true_eq] at size first
  refine ⟨_, _, limited, size.1, most ▸ size.2, placed, first, fun other low => ?_⟩
  have kept : (some other).filter (fun n : Int => decide (0 ≤ n)) = some other := by simp [low]
  unfold Listing.ofRequest at read ⊢
  obtain ⟨field, named, read⟩ := bind_eq_ok.mp read
  obtain ⟨way, turned, read⟩ := bind_eq_ok.mp read
  cases read
  rw [named, turned, kept]
  rfl

end History

namespace Host
variable {τ : Type} [Add τ] [Sub τ] [LT τ] [DecidableLT τ] [Reach τ]

/-- Wherever ordinary errands have brought a new store, the pages of an account's history partition one list, which has each of its
entries once, strictly ordered as asked for and in the descending order the reverse of the ascending one; and the texts of times
stand in the order of the times. A page size beyond 64 bits is refused. Requests in words are answered in the same way, with a size
from 1 to 100. -/
theorem runAll_pages (h : Host τ) (idle : h.system.store.status = .idle) (books : h.system.store.content.schema = Books.fresh.tables)
    (before : List (Plan (Errand τ))) (ordinary : Plan.AllOf (Errand.Ordinary fun _ => True) before) (account : Int)
    (named : fitsInteger account = true) :
    ∃ b : Books, (runAll before h).system.store.content.schema = b.tables ∧
      (∀ sort direction, b.Arranged account sort direction (b.history account sort direction)) ∧
      (∀ sort, b.history account sort .descending = (b.history account sort .ascending).reverse) ∧
      (∀ e ∈ b.entries, ∀ e' ∈ b.entries, e.createdAt.stamp < e'.createdAt.stamp ↔ e.createdAt < e'.createdAt) ∧
      (∀ sort direction, ∀ size : Int, 1 ≤ size → if fitsInteger size then
          History.Partitioned (runAll before h).system.store account sort direction size (b.history account sort direction)
        else ∀ offset : Int, (History.list account { limit := some size, offset := some offset, sort, direction }).alone
            (runAll before h).system.store =
          (.error (.ledger (.oversized "list transactions")), (runAll before h).system.store)) ∧
      ∀ sort direction limit offset listing, History.Listing.ofRequest sort direction limit offset = .ok listing →
        ∃ size first : Int, listing.limit = some size ∧ 1 ≤ size ∧ size ≤ 100 ∧ listing.offset = some first ∧ 0 ≤ first ∧
          (∀ other : Int, 0 ≤ other →
            History.Listing.ofRequest sort direction limit (some other) = .ok { listing with offset := some other }) ∧
          History.Partitioned (runAll before h).system.store account listing.sort listing.direction size
            (b.history account listing.sort listing.direction) := by
  have law := @Law.gapless (fun _ => True) (fun _ b => Measured b.entries) fun measured writes => writes.measured measured
  obtain ⟨idle₁, b, books₁, gapless, measured⟩ := runAll_keeps law ordinary idle
    ⟨.fresh, books, Books.fresh_gapless, fun _ among => nomatch among⟩
  refine ⟨b, books₁, gapless.history_arranged measured account, gapless.history_descending measured account,
    fun _ _ _ _ => Instant.stamp_lt_iff, fun sort direction size positive => ?_, ?_⟩
  · split
    · rename_i sized
      exact History.partitioned idle₁ books₁ named sort direction positive sized
    · rename_i oversized
      exact History.list_oversized idle₁ books₁ sort direction oversized
  · intro sort direction limit offset listing read
    obtain ⟨size, start, limited, positive, most, placed, low, others⟩ := History.Listing.ofRequest_bounds read
    have sized : fitsInteger size = true := fitsInteger_of_nonneg (by omega) (most.trans (by decide))
    exact ⟨size, start, limited, positive, most, placed, low, others,
      History.partitioned idle₁ books₁ named listing.sort listing.direction positive sized⟩

/-- Two entries of one amount, of which the second has the account on both sides, and one that is smaller. -/
theorem runAll_pages_by_sum :
    let _ : Reach Int := .everywhere Int
    let host : Host Int := .fresh .default
    let before : List (Plan (Errand Int)) := [
      .call (.call (.credit 2 5)) false false,
      .call (.call (.credit 1 5)) false false,
      .call (.call (.transfer 2 1 3)) false false]
    (host.system.store.status = .idle ∧ host.system.store.content.schema = Books.fresh.tables ∧
      Plan.AllOf (Errand.Ordinary fun _ => True) before ∧ fitsInteger 1 = true) ∧
      ∃ b : Books, (runAll before host).system.store.content.schema = b.tables ∧
        b.Arranged 1 (some .sum) .descending (b.history 1 (some .sum) .descending) ∧
        b.history 1 (some .sum) .descending = (b.history 1 (some .sum) .ascending).reverse ∧
        History.Partitioned (runAll before host).system.store 1 (some .sum) .descending 2 (b.history 1 (some .sum) .descending) := by
  intro _ host before
  obtain ⟨_, rests, books⟩ := Store.fresh_keeps .default
  have ordinary : Plan.AllOf (Errand.Ordinary fun _ => True) before := ⟨trivial, trivial, trivial, trivial⟩
  obtain ⟨b, there, arranged, turned, -, pages, -⟩ := runAll_pages host rests.idle books before ordinary 1 (by decide)
  have sized : fitsInteger 2 = true := by decide
  have partitioned := pages (some .sum) .descending 2 (by decide)
  rw [if_pos sized] at partitioned
  exact ⟨⟨rests.idle, books, ordinary, by decide⟩, b, there, arranged _ _, turned _, partitioned⟩

/-- A page size of 2⁶³ for an account without entries: no page beyond the first would be needed, but that one is refused. -/
theorem runAll_pages_oversized :
    let _ : Reach Int := .everywhere Int
    let host : Host Int := .fresh .default
    let size : Int := 0x8000000000000000
    let read := fun k : Nat => (History.list 1 { limit := some size, offset := some (k * size) }).alone
    (host.system.store.status = .idle ∧ host.system.store.content.schema = Books.fresh.tables ∧ fitsInteger 1 = true ∧ 1 ≤ size ∧
      ∀ k : Nat, k * size < (Books.fresh.history 1 none .ascending).length + size → fitsInteger (k * size) = true) ∧
      read 0 host.system.store = (.error (.ledger (.oversized "list transactions")), host.system.store) ∧
      ¬ ∃ total entries, Leafed read host.system.store total 0 entries := by
  intro _ host size read
  obtain ⟨_, rests, books⟩ := Store.fresh_keeps .default
  have refused : read 0 host.system.store = (.error (.ledger (.oversized "list transactions")), host.system.store) :=
    History.list_oversized rests.idle books none .ascending (by decide) _
  refine ⟨⟨rests.idle, books, by decide, by decide, fun k within => ?_⟩, refused, ?_⟩
  · have empty : (Books.fresh.history 1 none .ascending).length = 0 := by
      rw [Books.length_history]
      rfl
    have first : k = 0 := by
      rw [empty] at within
      omega
    subst first
    decide
  · rintro ⟨total, entries, leafed⟩
    cases leafed with
    | done empty => cases refused.symm.trans empty
    | turned _ answers _ => cases refused.symm.trans answers

end Host
end Passbook
