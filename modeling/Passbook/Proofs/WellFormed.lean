import Passbook.Proofs.Courses
import Passbook.Proofs.Fresh
import Passbook.Proofs.Writes

/-! Books in which every row is as it should be, whoever has written it. Rows pass their rules one statement at a time; that they
refer to accounts that exist may be put off to the end of a unit, but not beyond it. -/
namespace Passbook
open OrderRows Time

def Argument.IsWhole (argument : Argument) : Prop := ∃ n, argument = .ofInt n

/-- Statements that give an integer where a balance, an amount or a flag is asked for. -/
def Direct.IsWhole : Direct → Prop
  | .insertAccount _ balance => balance.IsWhole
  | .insertOrder columns _ => columns.amount.IsWhole ∧ columns.paid.IsWhole ∧ columns.cancelled.IsWhole
  | .setFlags paid cancelled _ => paid.IsWhole ∧ cancelled.IsWhole
  | _ => True

theorem Argument.IsWhole.stores {argument : Argument} {cell : Cell} (whole : argument.IsWhole) (stores : argument.Stores cell) :
    ∃ n, cell = .int n ∧ fitsInteger n = true := by
  obtain ⟨n, rfl⟩ := whole
  obtain ⟨position, bound, taken, rfl⟩ := stores
  have bindsIf : (Argument.ofInt n).bind position = if fitsInteger n then .ok (.int n) else .error .oversizedInteger := rfl
  rw [bindsIf] at taken
  split at taken
  · rename_i fits
    cases taken
    exact ⟨n, rfl, fits⟩
  · cases taken

namespace Books

/-- The rules of single rows, and rows in the order of their ids. -/
structure Lawful (b : Books) : Prop where
  guarded : b.log.Guarded
  accounts : Rows.Ascending Account.id b.accounts
  orders : Rows.Ascending Order.id b.orders
  entries : Rows.Ascending Entry.id b.entries
  numbered : ∀ entry ∈ b.entries, entry.id ≤ b.log.lastId
  inRange : ∀ account ∈ b.accounts, 0 ≤ account.balance ∧ account.balance ≤ maxInteger
  priced : ∀ order ∈ b.orders, ∃ amount, order.amount = .int amount ∧ 0 < amount ∧ amount ≤ maxInteger
  single : ∀ order ∈ b.orders, order.IsUnambiguous
  measured : ∀ entry ∈ b.entries, ∃ amount, entry.amount = .int amount ∧ 0 ≤ amount

structure Tied (b : Books) : Prop where
  orders : ∀ order ∈ b.orders, b.tables.hasOwner order.account = true
  entries : ∀ entry ∈ b.entries, b.Has entry.sender ∧ b.Has entry.receiver

theorem orphaned_eq_false_iff {b : Books} : Keyed.orphaned b.tables = false ↔ b.Tied := by
  have owner (id : Int) : b.tables.hasOwner (.int id) = true ↔ b.Has id := hasAccount_iff
  have referenced : b.tables.referenced = b.orders.map Order.account ++ b.entries.flatMap fun e => [.int e.sender, .int e.receiver] := rfl
  have orphaned : Keyed.orphaned b.tables = b.tables.referenced.any fun owner => !b.tables.hasOwner owner := rfl
  rw [orphaned, referenced]
  simp only [List.any_append, List.any_map, List.any_flatMap, Bool.or_eq_false_iff, List.any_eq_false]
  constructor
  · rintro ⟨orders, entries⟩
    constructor
    · intro order among
      simpa using orders order among
    · intro entry among
      simpa [owner] using entries entry among
  · rintro ⟨orders, entries⟩
    constructor
    · intro order among
      simpa using orders order among
    · intro entry among
      simpa [owner] using entries entry among

/-- References that were put off are in order once their unit has been committed. -/
theorem tied_of_deferred {b : Books} {c : Database} (books : c.schema = b.tables) (sound : (true && Keyed.orphaned c) = false) :
    b.Tied := by
  have orphaned : Keyed.orphaned c = Keyed.orphaned b.tables := congrArg Keyed.orphaned books
  rw [Bool.true_and, orphaned] at sound
  exact orphaned_eq_false_iff.mp sound

theorem fresh_lawful : fresh.Lawful where
  guarded := ⟨rfl, rfl⟩
  accounts := .nil
  orders := .nil
  entries := .nil
  numbered _ among := nomatch among
  inRange _ among := nomatch among
  priced _ among := nomatch among
  single _ among := nomatch among
  measured _ among := nomatch among

theorem fresh_tied : fresh.Tied where
  orders _ among := nomatch among
  entries _ among := nomatch among

section
variable {b b' : Books} {free : Direct → Prop} {now : Reading} {deferred : Bool}

theorem checkRow_eq_ok {order : OrderRow} (checked : checkRow order = .ok ()) :
    (order.amount.compare (.int 0)).isGT = true ∧ ¬ (order.paid.isTrue = true ∧ order.cancelled.isTrue = true) := by
  unfold checkRow at checked
  simp only [throw_eq, error_bind, return_eq, guard_eq_ok] at checked
  obtain ⟨positive, single, _⟩ := checked
  exact ⟨by simpa using positive, by simpa using single⟩

theorem checkRow_whole {order : OrderRow} {amount paid cancelled : Int} (checked : checkRow order = .ok ())
    (isAmount : order.amount = .int amount) (isPaid : order.paid = .int paid) (isCancelled : order.cancelled = .int cancelled) :
    0 < amount ∧ (paid = 0 ∨ cancelled = 0) := by
  obtain ⟨positive, single⟩ := checkRow_eq_ok checked
  rw [isAmount] at positive
  rw [isPaid, isCancelled] at single
  constructor
  · simpa [Cell.compare, Ordering.isGT_iff_eq_gt, Int.compare_eq_gt] using positive
  · simpa [Cell.isTrue, or_iff_not_imp_left] using single

theorem Writes.has {id : Int} (writes : b.Writes free now deferred b') (there : b.Has id) : b'.Has id := by
  obtain ⟨row, among, same⟩ := there
  cases writes with
  | enlisted account new low origin named => exact ⟨row, Rows.mem_insert.mpr (.inr among), same⟩
  | adjusted id' delta found low high =>
    refine ⟨_, Rows.mem_update.mpr ⟨row, among, rfl⟩, ?_⟩
    split <;> exact same
  | ordered order new checked owner origin => exact ⟨row, among, same⟩
  | ended ending id' shown found pending => exact ⟨row, among, same⟩
  | flagged id' found checked origin => exact ⟨row, among, same⟩
  | posted kind sender receiver amount description shown low known => exact ⟨row, among, same⟩

theorem Writes.hasOwner {cell : Cell} (writes : b.Writes free now deferred b') (owned : b.tables.hasOwner cell = true) :
    b'.tables.hasOwner cell = true := by
  cases cell with
  | int id => exact hasAccount_iff.mpr (writes.has (hasAccount_iff.mp owned))
  | _ => cases owned

theorem Writes.owned (writes : b.Writes free now false b') (owned : ∀ order ∈ b.orders, b.tables.hasOwner order.account = true) :
    ∀ order ∈ b'.orders, b'.tables.hasOwner order.account = true := by
  have orders (order : OrderRow) (among : order ∈ b.orders) : b'.tables.hasOwner order.account = true :=
    writes.hasOwner (owned order among)
  have grown := writes
  cases writes with
  | ordered order new checked owner origin =>
    intro other among
    rcases Rows.mem_insert.mp among with rfl | among
    · exact grown.hasOwner (owner rfl)
    · exact orders other among
  | @ended _ time ending id shown found pending =>
    intro order later
    obtain ⟨old, among, rfl⟩ := Rows.mem_update.mp later
    have kept : (if old.id = id then finished ending time old else old).account = old.account := by
      cases ending <;> split <;> rfl
    rw [kept]
    exact orders old among
  | flagged id found checked origin =>
    intro order later
    obtain ⟨old, among, rfl⟩ := Rows.mem_update.mp later
    split <;> exact orders old among
  | _ => exact orders

theorem Writes.tied (writes : b.Writes free now false b') (tied : b.Tied) : b'.Tied := by
  refine ⟨writes.owned tied.orders, ?_⟩
  have entries (entry : Entry Instant) (among : entry ∈ b.entries) : b'.Has entry.sender ∧ b'.Has entry.receiver :=
    ⟨writes.has (tied.entries entry among).1, writes.has (tied.entries entry among).2⟩
  cases writes with
  | posted kind sender receiver amount description shown low known =>
    intro entry later
    rcases List.mem_append.mp later with among | isNew
    · exact entries entry among
    · rw [List.mem_singleton.mp isNew]
      exact known rfl
  | _ => exact entries

theorem Writes.accounts (writes : b.Writes free now deferred b')
    (whole : ∀ id balance, free (.insertAccount id balance) → balance.IsWhole) (ascending : Rows.Ascending Account.id b.accounts)
    (inRange : ∀ account ∈ b.accounts, 0 ≤ account.balance ∧ account.balance ≤ maxInteger) :
    Rows.Ascending Account.id b'.accounts ∧ ∀ account ∈ b'.accounts, 0 ≤ account.balance ∧ account.balance ≤ maxInteger := by
  cases writes with
  | enlisted account new low origin named =>
    refine ⟨Rows.insert_ascending ascending new, fun row among => ?_⟩
    rcases Rows.mem_insert.mp among with rfl | among
    · refine ⟨low, ?_⟩
      rcases origin with empty | ⟨id, balance, allowed, stores⟩
      · rw [empty]
        decide
      · obtain ⟨n, same, fits⟩ := (whole id balance allowed).stores stores
        cases same
        exact (fitsInteger_bounds fits).2
    · exact inRange row among
  | adjusted id delta found low high =>
    refine ⟨Rows.update_ascending ascending fun _ => rfl, fun row later => ?_⟩
    obtain ⟨old, among, rfl⟩ := Rows.mem_update.mp later
    split
    · exact ⟨low, high⟩
    · exact inRange old among
  | _ => exact ⟨ascending, inRange⟩

theorem Lawful.inserted (lawful : b.Lawful) {order : OrderRow} (new : ∀ row ∈ b.orders, row.id ≠ order.id)
    (priced : ∃ amount, order.amount = .int amount ∧ 0 < amount ∧ amount ≤ maxInteger) (single : order.IsUnambiguous) :
    ({ b with orders := Rows.insert Order.id order b.orders } : Books).Lawful := by
  refine { lawful with orders := Rows.insert_ascending lawful.orders new, priced := ?_, single := ?_ }
  · intro other among
    rcases Rows.mem_insert.mp among with rfl | among
    · exact priced
    · exact lawful.priced other among
  · intro other among
    rcases Rows.mem_insert.mp among with rfl | among
    · exact single
    · exact lawful.single other among

/-- An order may be changed in its flags as long as they stay unambiguous. -/
theorem Lawful.updated (lawful : b.Lawful) {id : Int} {order : OrderRow} {change : OrderRow → OrderRow}
    (found : Rows.find? Order.id id b.orders = some order) (keeps : ∀ row, (change row).id = row.id ∧ (change row).amount = row.amount)
    (single : (change order).IsUnambiguous) : ({ b with orders := Rows.update Order.id id change b.orders } : Books).Lawful := by
  refine { lawful with orders := Rows.update_ascending lawful.orders fun row => (keeps row).1, priced := ?_, single := ?_ }
  · intro row later
    obtain ⟨old, among, rfl⟩ := Rows.mem_update.mp later
    split
    · rw [(keeps old).2]
      exact lawful.priced old among
    · exact lawful.priced old among
  · intro row later
    obtain ⟨old, among, rfl⟩ := Rows.mem_update.mp later
    split
    · rename_i same
      obtain ⟨among', named⟩ := Rows.find?_some found
      cases lawful.orders.unique among' among (named.trans same.symm)
      exact single
    · exact lawful.single old among

theorem Writes.lawful (writes : b.Writes Direct.IsWhole now deferred b') (lawful : b.Lawful) : b'.Lawful := by
  have guarded := writes.guarded lawful.guarded
  obtain ⟨accounts, inRange⟩ := writes.accounts (fun _ _ whole => whole) lawful.accounts lawful.inRange
  cases writes with
  | enlisted account new low origin named => exact { lawful with accounts, inRange }
  | adjusted id delta found low high => exact { lawful with accounts, inRange }
  | ordered order new checked owner origin =>
    have whole : ∃ amount paid cancelled : Int, order.amount = .int amount ∧ amount ≤ maxInteger ∧ order.paid = .int paid ∧
        order.cancelled = .int cancelled := by
      rcases origin with ⟨account, service, amount, time, _, fits, same⟩ | ⟨columns, time, ⟨amount, paid, cancelled⟩, stores⟩
      · rw [same]
        exact ⟨amount, 0, 0, rfl, (fitsInteger_bounds (fits amount (by simp))).2, rfl, rfl⟩
      · obtain ⟨amount, isAmount, fits⟩ := amount.stores stores.amount
        obtain ⟨paid, isPaid, _⟩ := paid.stores stores.paid
        obtain ⟨cancelled, isCancelled, _⟩ := cancelled.stores stores.cancelled
        exact ⟨amount, paid, cancelled, isAmount, (fitsInteger_bounds fits).2, isPaid, isCancelled⟩
    obtain ⟨amount, paid, cancelled, isAmount, high, isPaid, isCancelled⟩ := whole
    obtain ⟨positive, single⟩ := checkRow_whole checked isAmount isPaid isCancelled
    exact lawful.inserted new ⟨amount, isAmount, positive, high⟩ ⟨paid, cancelled, isPaid, isCancelled, single⟩
  | @ended order time ending id shown found pending =>
    have keeps (row : OrderRow) : (finished ending time row).id = row.id ∧ (finished ending time row).amount = row.amount := by
      cases ending <;> exact ⟨rfl, rfl⟩
    have flags := (lawful.single order (Rows.find?_some found).1).flags pending
    exact lawful.updated found keeps (.finished ending time flags)
  | @flagged order paid cancelled id found checked origin =>
    obtain ⟨first, second, third, ⟨wholePaid, wholeCancelled⟩, storesPaid, storesCancelled⟩ := origin
    obtain ⟨paid, rfl, _⟩ := wholePaid.stores storesPaid
    obtain ⟨cancelled, rfl, _⟩ := wholeCancelled.stores storesCancelled
    obtain ⟨amount, isAmount, _, _⟩ := lawful.priced order (Rows.find?_some found).1
    obtain ⟨_, single⟩ := checkRow_whole checked isAmount rfl rfl
    exact lawful.updated found (fun _ => ⟨rfl, rfl⟩) ⟨paid, cancelled, rfl, rfl, single⟩
  | posted kind sender receiver amount description shown low known =>
    obtain ⟨entries, numbered⟩ := posted_ascending lawful.entries lawful.numbered
    refine { lawful with guarded, entries, numbered, measured := ?_ }
    intro entry among
    rcases List.mem_append.mp among with among | isNew
    · exact lawful.measured entry among
    · rw [List.mem_singleton.mp isNew]
      exact ⟨amount, rfl, low⟩

end

/-- What everyone may rely on in the books that are committed. -/
structure WellFormed (b : Books) : Prop where
  balances : ∀ account ∈ b.accounts, 0 ≤ account.balance ∧ account.balance ≤ maxInteger
  amounts : ∀ order ∈ b.orders, ∃ amount, order.amount = .int amount ∧ 1 ≤ amount ∧ amount ≤ maxInteger
  flags : ∀ order ∈ b.orders, ¬ (order.isPaid = true ∧ order.isCancelled = true)
  owners : ∀ order ∈ b.orders, ∃ account, order.account = .int account ∧ b.Has account
  parties : ∀ entry ∈ b.entries, b.Has entry.sender ∧ b.Has entry.receiver
  kinds : ∀ entry ∈ b.entries, entry.kind ∈ EntryKind.all
  sizes : ∀ entry ∈ b.entries, ∃ amount, entry.amount = .int amount ∧ 0 ≤ amount
  ids : (b.accounts.map Account.id).Nodup ∧ (b.orders.map Order.id).Nodup ∧ (b.entries.map Entry.id).Nodup

theorem Lawful.wellFormed {b : Books} (lawful : b.Lawful) (tied : b.Tied) : b.WellFormed where
  balances := lawful.inRange
  amounts := lawful.priced
  flags order among := (lawful.single order among).single
  owners order among := by
    have owned := tied.orders order among
    cases account : order.account with
    | int id =>
      rw [account] at owned
      exact ⟨id, rfl, hasAccount_iff.mp owned⟩
    | _ =>
      rw [account] at owned
      cases owned
  parties := tied.entries
  kinds entry _ := by
    cases entry.kind <;> decide
  sizes := lawful.measured
  ids := ⟨lawful.accounts.nodup, lawful.orders.nodup, lawful.entries.nodup⟩

end Books

theorem Law.lawful : Law (Given Direct.IsWhole)
    (fun _ deferred c => ∃ b : Books, c.schema = b.tables ∧ b.Lawful ∧ (deferred = false → b.Tied))
    (fun c c' => ∀ id, c.schema.hasAccount id = true → c'.schema.hasAccount id = true) where
  nothing _ _ there := there
  more grown grown' id there := grown' id (grown id there)
  statement given answered := by
    rintro ⟨b, books, lawful, tied⟩
    obtain ⟨b', books', rfl | writes⟩ := given.writes lawful.guarded books answered
    · rw [books']
      exact ⟨⟨b', rfl, lawful, tied⟩, fun id there => books ▸ there⟩
    · refine ⟨⟨b', books', writes.lawful lawful, ?_⟩, ?_⟩
      · rintro rfl
        exact writes.tied (tied rfl)
      · intro id there
        rw [books] at there
        rw [books']
        have owned : b.tables.hasOwner (.int id) = true := there
        exact writes.hasOwner owned
  deferring := by
    rintro r deferred content ⟨b, books, lawful, _⟩
    exact ⟨b, books, lawful, nofun⟩
  commit := by
    rintro r deferred content ⟨b, books, lawful, tied⟩ sound
    refine ⟨b, books, lawful, fun _ => ?_⟩
    cases deferred with
    | false => exact tied rfl
    | true => exact Books.tied_of_deferred books sound

namespace Host
variable {τ : Type} [Add τ] [Sub τ] [LT τ] [DecidableLT τ] [Reach τ]

/-- At any two points of a run of ordinary errands the committed books are well-formed, and no account has gone from one to the
other. -/
theorem runAll_wellFormed (h : Host τ) (b : Books) (idle : h.system.store.status = .idle)
    (books : h.system.store.content.schema = b.tables) (lawful : b.Lawful) (tied : b.Tied) (before after : List (Plan (Errand τ)))
    (ordinary : Plan.AllOf (Errand.Ordinary Direct.IsWhole) before ∧ Plan.AllOf (Errand.Ordinary Direct.IsWhole) after) :
    ∃ b₁ b₂ : Books, (runAll before h).system.store.content.schema = b₁.tables ∧
      (runAll (before ++ after) h).system.store.content.schema = b₂.tables ∧
      b₁.WellFormed ∧ b₂.WellFormed ∧ ∀ id, b₁.Has id → b₂.Has id := by
  have course : Course (run : Bool → Errand τ → HostAct τ Reply) (Errand.Ordinary Direct.IsWhole) (fun _ _ => True) _ _ :=
    course_of_law Law.lawful (fun _ => trivial) (fun _ _ => trivial) (fun _ holds => holds)
  obtain ⟨here, there, first, rest⟩ := runAll_continues course before after ordinary h idle ⟨b, books, lawful, fun _ => tied⟩
    fun _ _ => trivial
  obtain ⟨b₁, books₁, lawful₁, tied₁⟩ := first.holds
  obtain ⟨b₂, books₂, lawful₂, tied₂⟩ := rest.holds
  obtain ⟨_, _, grown⟩ := rest.kept
  refine ⟨b₁, b₂, here ▸ books₁, there ▸ books₂, lawful₁.wellFormed (tied₁ rfl), lawful₂.wellFormed (tied₂ rfl), ?_⟩
  intro id has
  have later := grown id (books₁ ▸ Books.hasAccount_iff.mpr has)
  rw [books₂] at later
  exact Books.hasAccount_iff.mp later

/-- An order is put in before its account, and its flags are set. -/
theorem runAll_wellFormed_fresh :
    let _ : Reach Int := .everywhere Int
    let host : Host Int := .fresh .default
    let order : OrderRows.Columns := ⟨.ofInt 7, .ofInt 1, .ofInt 2, .ofInt 3, .ofInt 0, .ofInt 0⟩
    let before : List (Plan (Errand Int)) := [.unit [
      .call (.call (.direct "execute" .deferReferences)) false false,
      .call (.call (.direct "execute" (.insertOrder order .default))) false false,
      .call (.call (.direct "execute" (.insertAccount (.ofInt 1) (.ofInt 5)))) false false] false false]
    let after : List (Plan (Errand Int)) := [.call (.call (.direct "execute" (.setFlags (.ofInt 1) (.ofInt 1) (.ofInt 7)))) false false]
    host.system.store.status = .idle ∧ host.system.store.content.schema = Books.fresh.tables ∧ Books.fresh.Lawful ∧
      Books.fresh.Tied ∧
      (Plan.AllOf (Errand.Ordinary Direct.IsWhole) before ∧ Plan.AllOf (Errand.Ordinary Direct.IsWhole) after) ∧
      ∃ b₁ b₂ : Books, (runAll before host).system.store.content.schema = b₁.tables ∧
        (runAll (before ++ after) host).system.store.content.schema = b₂.tables ∧
        b₁.WellFormed ∧ b₂.WellFormed ∧ ∀ id, b₁.Has id → b₂.Has id := by
  intro _ host order before after
  obtain ⟨_, rests, books⟩ := Store.fresh_keeps .default
  have whole (n : Int) : (Argument.ofInt n).IsWhole := ⟨n, rfl⟩
  have ordinary : Plan.AllOf (Errand.Ordinary Direct.IsWhole) before ∧ Plan.AllOf (Errand.Ordinary Direct.IsWhole) after :=
    ⟨⟨⟨trivial, ⟨whole 3, whole 0, whole 0⟩, whole 5, trivial⟩, trivial⟩, ⟨whole 1, whole 1⟩, trivial⟩
  exact ⟨rests.idle, books, Books.fresh_lawful, Books.fresh_tied, ordinary,
    runAll_wellFormed host .fresh rests.idle books Books.fresh_lawful Books.fresh_tied before after ordinary⟩

end Host
end Passbook
