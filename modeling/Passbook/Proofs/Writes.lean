import Passbook.Proofs.Bookkeeping
import Passbook.Proofs.Statements

/-! What a single statement can write in the books while their log is guarded. There are six kinds of changes, and each of them has
passed the rules of the row it concerns. -/
namespace Passbook
open AccountRows OrderRows LogRows Time

/-- What a column of integers keeps of an argument. -/
def Argument.Stores (argument : Argument) (cell : Cell) : Prop :=
  ∃ position bound, argument.bind position = .ok bound ∧ bound.integral = cell

structure OrderRows.Columns.Store (columns : Columns) (order : OrderRow) : Prop where
  amount : columns.amount.Stores order.amount
  paid : columns.paid.Stores order.paid
  cancelled : columns.cancelled.Stores order.cancelled

/-- The guards of the log are there: no entry is changed or removed. -/
structure Log.Guarded (log : Log) : Prop where
  update : log.refusesUpdate = true
  delete : log.refusesDelete = true

namespace Books

/-- One statement's change, put while the clock shows `now`. References are checked at once unless they are deferred. -/
inductive Writes (free : Direct → Prop) (now : Reading) (deferred : Bool) (b : Books) : Books → Prop
  | enlisted (account : Account) (new : ∀ row ∈ b.accounts, row.id ≠ account.id) (low : 0 ≤ account.balance)
      (origin : account.balance = 0 ∨ ∃ id balance, free (.insertAccount id balance) ∧ balance.Stores (.int account.balance))
      (named : fitsInteger account.id = true ∨
        ∃ id balance, free (.insertAccount id balance) ∧ (id.Stores (.int account.id) ∨ id.Stores .null)) :
      Writes free now deferred b { b with accounts := Rows.insert Account.id account b.accounts }
  | adjusted {account : Account} (id delta : Int) (found : b.account? id = some account) (low : 0 ≤ account.balance + delta)
      (high : account.balance + delta ≤ maxInteger) :
      Writes free now deferred b
        { b with accounts := Rows.update Account.id id (fun a => { a with balance := account.balance + delta }) b.accounts }
  | ordered (order : OrderRow) (new : ∀ row ∈ b.orders, row.id ≠ order.id) (checked : checkRow order = .ok ())
      (owner : deferred = false → b.tables.hasOwner order.account = true)
      (origin : (∃ account service amount time, now.instant = .ok time ∧
          (∀ n ∈ [order.id, account, service, amount], fitsInteger n = true) ∧
            order = .opened order.id account service amount time) ∨
        ∃ columns time, free (.insertOrder columns time) ∧ columns.Store order) :
      Writes free now deferred b { b with orders := Rows.insert Order.id order b.orders }
  | ended {order : OrderRow} {time : Instant} (ending : Ending) (id : Int) (shown : now.instant = .ok time)
      (found : Rows.find? Order.id id b.orders = some order)
      (pending : order.paid.agrees (.ofBool false) = true ∧ order.cancelled.agrees (.ofBool false) = true) :
      Writes free now deferred b (b.settled ending time id)
  | flagged {order : OrderRow} {paid cancelled : Cell} (id : Int) (found : Rows.find? Order.id id b.orders = some order)
      (checked : checkRow { order with paid, cancelled } = .ok ())
      (origin : ∃ first second third, free (.setFlags first second third) ∧ first.Stores paid ∧ second.Stores cancelled) :
      Writes free now deferred b { b with orders := Rows.update Order.id id (fun o => { o with paid, cancelled }) b.orders }
  | posted (kind : EntryKind) (sender receiver amount : Int) (description : String) {time : Instant} (shown : now.instant = .ok time)
      (low : 0 ≤ amount) (known : deferred = false → b.Has sender ∧ b.Has receiver) :
      Writes free now deferred b (b.posted kind sender receiver amount description time)

def Leaves (free : Direct → Prop) (now : Reading) (deferred : Bool) (b : Books) (t : Tables) : Prop :=
  ∃ b', t = b'.tables ∧ (b' = b ∨ b.Writes free now deferred b')

theorem Leaves.same {free : Direct → Prop} {now : Reading} {deferred : Bool} {b : Books} : b.Leaves free now deferred b.tables :=
  ⟨b, rfl, .inl rfl⟩

theorem Writes.leaves {free : Direct → Prop} {now : Reading} {deferred : Bool} {b b' : Books} (writes : b.Writes free now deferred b') :
    b.Leaves free now deferred b'.tables :=
  ⟨b', rfl, .inr writes⟩

section
variable {free : Direct → Prop} {now : Reading} {deferred : Bool} {b b' : Books}

/-- All that a statement can do to the log is to add an entry under the next id, with the time the clock shows. -/
theorem Writes.log (writes : b.Writes free now deferred b') : b'.log = b.log ∨ ∃ entry : Entry Instant,
    entry.id = (b.log.lastId : Int) + 1 ∧ now.instant = .ok entry.createdAt ∧
      b'.log = { b.log with entries := b.entries ++ [entry], lastId := b.log.lastId + 1 } := by
  cases writes with
  | posted kind sender receiver amount description shown low known => exact .inr ⟨_, Int.natCast_succ _, shown, rfl⟩
  | _ => exact .inl rfl

theorem Writes.guarded (writes : b.Writes free now deferred b') (guarded : b.log.Guarded) : b'.log.Guarded := by
  rcases writes.log with same | ⟨entry, _, _, added⟩
  · rw [same]
    exact guarded
  · rw [added]
    exact ⟨guarded.update, guarded.delete⟩

end

end Books

/-- Integers for flags, of which one at most is set. -/
def Order.IsUnambiguous (order : OrderRow) : Prop :=
  ∃ paid cancelled : Int, order.paid = .int paid ∧ order.cancelled = .int cancelled ∧ (paid = 0 ∨ cancelled = 0)

namespace Order.IsUnambiguous
variable {order : OrderRow}

theorem opened {id account service amount : Int} {time : Instant} : (Order.opened id account service amount time).IsUnambiguous :=
  ⟨0, 0, rfl, rfl, .inl rfl⟩

theorem single (unambiguous : order.IsUnambiguous) : ¬ (order.isPaid = true ∧ order.isCancelled = true) := by
  obtain ⟨paid, cancelled, isPaid, isCancelled, single⟩ := unambiguous
  rintro ⟨first, second⟩
  rw [Order.isPaid, isPaid] at first
  rw [Order.isCancelled, isCancelled] at second
  rcases single with rfl | rfl
  · cases first
  · cases second

theorem flags (unambiguous : order.IsUnambiguous)
    (pending : order.paid.agrees (.ofBool false) = true ∧ order.cancelled.agrees (.ofBool false) = true) :
    order.paid = .int 0 ∧ order.cancelled = .int 0 := by
  obtain ⟨paid, cancelled, isPaid, isCancelled, _⟩ := unambiguous
  obtain ⟨notPaid, notCancelled⟩ := pending
  rw [isPaid] at notPaid
  rw [isCancelled] at notCancelled
  cases (Cell.agrees_int paid 0).mp notPaid
  cases (Cell.agrees_int cancelled 0).mp notCancelled
  exact ⟨isPaid, isCancelled⟩

theorem finished (ending : Ending) (time : Instant) (flags : order.paid = .int 0 ∧ order.cancelled = .int 0) :
    (OrderRows.finished ending time order).IsUnambiguous := by
  cases ending with
  | paid => exact ⟨1, 0, rfl, flags.2, .inr rfl⟩
  | cancelled => exact ⟨0, 1, flags.1, rfl, .inl rfl⟩

end Order.IsUnambiguous

section
variable {ε α : Type}

theorem guard_eq_ok {condition : Prop} [Decidable condition] {e : ε} {x : Except ε α} {a : α} :
    (if condition then .error e else x) = .ok a ↔ ¬ condition ∧ x = .ok a := by
  by_cases held : condition <;> simp [held]

end

theorem Argument.stores_of_bindAll {arguments : List Argument} {cells : List Cell} (bound : bindAll arguments = .ok cells) {i : Nat}
    {argument : Argument} (at_ : arguments[i]? = some argument) : argument.Stores (cells[i]?.getD .null).integral := by
  -- The positions are numbered from one on, and from any number on in the tail.
  have general (arguments : List Argument) (start : Nat) (cells : List Cell)
      (bound : (arguments.zipIdx start).mapM (fun numbered => numbered.1.bind (numbered.2 + 1)) = .ok cells) (i : Nat)
      (at_ : arguments[i]? = some argument) : ∃ cell, cells[i]? = some cell ∧ ∃ position, argument.bind position = .ok cell := by
    induction arguments generalizing start cells i with
    | nil => simp at at_
    | cons first rest ih =>
      simp only [List.zipIdx_cons, List.mapM_cons, bind_eq_ok, return_eq] at bound
      obtain ⟨cell, here, later, there, ⟨⟩⟩ := bound
      cases i with
      | zero =>
        cases at_
        exact ⟨cell, rfl, start + 1, here⟩
      | succ i => exact ih (start + 1) later there i at_
  obtain ⟨cell, found, position, taken⟩ := general arguments 0 cells bound i at_
  rw [found]
  exact ⟨position, cell, taken, rfl⟩

theorem AccountRows.fits_of_bindAll {values : List Int} {u : Unit} (bound : bindAll values = .ok u) :
    ∀ n ∈ values, fitsInteger n = true := by
  rw [bindAll_eq] at bound
  split at bound
  · assumption
  · cases bound

theorem OrderRows.required_eq_ok {column : String} {cell cell' : Cell} (given : required column cell = .ok cell') : cell' = cell := by
  cases cell with
  | null => cases given
  | _ =>
    cases given
    rfl

section
variable {b : Books} {free : Direct → Prop} {now : Reading} {deferred : Bool} {t : Tables}

@[simp] theorem logOf_tables : logOf b.tables = .ok b.log := rfl

theorem AccountRows.put_writes {account : Account} {a : Account} (answered : put b.accounts account b.tables = .ok (a, t)) :
    (∀ row ∈ b.accounts, row.id ≠ account.id) ∧
      t = ({ b with accounts := Rows.insert Account.id account b.accounts } : Books).tables := by
  unfold put at answered
  rw [guard_eq_ok] at answered
  obtain ⟨absent, answered⟩ := answered
  cases answered
  refine ⟨fun row among same => absent (Rows.contains_iff.mpr ⟨row, among, same⟩), rfl⟩

theorem AccountRows.insert_writes {id : Int} {a : Account} (answered : AccountRows.insert id deferred b.tables = .ok (a, t)) :
    b.Leaves free now deferred t := by
  unfold AccountRows.insert at answered
  simp only [accountsOf_tables, ok_bind, bind_eq_ok] at answered
  obtain ⟨_, bound, answered⟩ := answered
  have held : fitsInteger id = true := fits_of_bindAll bound id (by simp)
  obtain ⟨new, rfl⟩ := put_writes answered
  exact Books.Writes.leaves (.enlisted _ new (Int.le_refl 0) (.inl rfl) (.inl held))

theorem AccountRows.adjust_writes {amount delta id : Int} {a : Option Int}
    (answered : AccountRows.adjust amount delta id deferred b.tables = .ok (a, t)) :
    b.Leaves free now deferred t := by
  unfold AccountRows.adjust at answered
  simp only [accountsOf_tables, ok_bind, bind_eq_ok] at answered
  obtain ⟨_, fits, answered⟩ := answered
  cases found : Rows.find? Account.id id b.accounts with
  | none =>
    rw [found] at answered
    cases answered
    exact Books.Leaves.same
  | some account =>
    rw [found] at answered
    simp only [throw_eq, error_bind, return_eq, guard_eq_ok] at answered
    obtain ⟨low, high, answered⟩ := answered
    cases answered
    exact Books.Writes.leaves (.adjusted id delta found (Int.not_lt.mp low) (Int.not_lt.mp high))

theorem AccountRows.insertCells_writes {id balance : Argument} {a : Unit} (allowed : free (.insertAccount id balance))
    (answered : AccountRows.insertCells id balance deferred b.tables = .ok (a, t)) : b.Leaves free now deferred t := by
  unfold AccountRows.insertCells at answered
  simp only [accountsOf_tables, ok_bind, bind_eq_ok] at answered
  obtain ⟨cells, bound, answered⟩ := answered
  have names : id.Stores (cells[0]?.getD Cell.null).integral := Argument.stores_of_bindAll bound rfl
  have stores : balance.Stores (cells[1]?.getD Cell.null).integral := Argument.stores_of_bindAll bound rfl
  have kept : ∃ account : Account, 0 ≤ account.balance ∧ (cells[1]?.getD Cell.null).integral = .int account.balance ∧
      (id.Stores (.int account.id) ∨ id.Stores .null) ∧ ∃ answer, put b.accounts account b.tables = .ok (answer, t) := by
    cases stored : (cells[1]?.getD Cell.null).integral with
    | int amount =>
      rw [stored] at answered
      split at answered
      on_goal 3 => cases answered
      all_goals
        rename_i given
        simp only [return_eq, ok_bind, throw_eq, error_bind, guard_eq_ok, bind_eq_ok] at answered
        obtain ⟨low, ⟨answer, t'⟩, inserted, ⟨⟩⟩ := answered
        have low : 0 ≤ amount := by simpa [Cell.compare, Ordering.isLT_iff_eq_lt, Int.compare_eq_lt] using low
        rw [given] at names
      · exact ⟨_, low, rfl, .inr names, answer, inserted⟩
      · exact ⟨_, low, rfl, .inl names, answer, inserted⟩
    | _ =>
      rw [stored] at answered
      split at answered <;> simp [guard_eq_ok] at answered
  obtain ⟨account, low, stored, named, answer, answered⟩ := kept
  obtain ⟨new, rfl⟩ := put_writes answered
  rw [stored] at stores
  exact Books.Writes.leaves (.enlisted account new low (.inr ⟨id, balance, allowed, stores⟩) (.inr ⟨id, balance, allowed, named⟩))

theorem OrderRows.put_writes {order : OrderRow} {a : OrderRow} (answered : put b.orders order deferred b.tables = .ok (a, t)) :
    checkRow order = .ok () ∧ (∀ row ∈ b.orders, row.id ≠ order.id) ∧
      (deferred = false → b.tables.hasOwner order.account = true) ∧
      t = ({ b with orders := Rows.insert Order.id order b.orders } : Books).tables := by
  unfold OrderRows.put at answered
  simp only [throw_eq, error_bind, return_eq, guard_eq_ok, bind_eq_ok] at answered
  obtain ⟨_, checked, absent, owned, answered⟩ := answered
  cases answered
  refine ⟨checked, fun row among same => absent (Rows.contains_iff.mpr ⟨row, among, same⟩), ?_, rfl⟩
  intro now
  simpa [now] using owned

theorem OrderRows.insert_writes {id account service amount : Int} {time : Instant} {a : OrderRow} (shown : now.instant = .ok time)
    (answered : OrderRows.insert id account service amount time deferred b.tables = .ok (a, t)) :
    b.Leaves free now deferred t := by
  unfold OrderRows.insert at answered
  simp only [ordersOf_tables, requireAccounts_tables, ok_bind, bind_eq_ok] at answered
  obtain ⟨_, bound, answered⟩ := answered
  obtain ⟨checked, new, owner, rfl⟩ := put_writes answered
  exact Books.Writes.leaves (.ordered _ new checked owner (.inl ⟨account, service, amount, time, shown, fits_of_bindAll bound, rfl⟩))

theorem OrderRows.insertColumns_writes {columns : Columns} {time : Instant} {a : Unit} (allowed : free (.insertOrder columns time))
    (answered : OrderRows.insertColumns columns time deferred b.tables = .ok (a, t)) :
    b.Leaves free now deferred t := by
  unfold OrderRows.insertColumns at answered
  simp only [ordersOf_tables, requireAccounts_tables, ok_bind, bind_eq_ok] at answered
  obtain ⟨cells, bound, answered⟩ := answered
  have amount : columns.amount.Stores (cells[3]?.getD Cell.null).integral := Argument.stores_of_bindAll bound rfl
  have paid : columns.paid.Stores (cells[4]?.getD Cell.null).integral := Argument.stores_of_bindAll bound rfl
  have cancelled : columns.cancelled.Stores (cells[5]?.getD Cell.null).integral := Argument.stores_of_bindAll bound rfl
  have taken : ∃ order answer, columns.Store order ∧ put b.orders order deferred b.tables = .ok (answer, t) := by
    -- The id is left to the store, or it is given, or it is nothing an id can be.
    split at answered
    on_goal 3 => cases answered
    all_goals
      simp only [return_eq, ok_bind, bind_eq_ok] at answered
      obtain ⟨_, _, _, _, _, isAmount, _, isPaid, _, isCancelled, ⟨answer, t'⟩, inserted, ⟨⟩⟩ := answered
      cases required_eq_ok isAmount
      cases required_eq_ok isPaid
      cases required_eq_ok isCancelled
      exact ⟨_, answer, ⟨amount, paid, cancelled⟩, inserted⟩
  obtain ⟨order, answer, stores, inserted⟩ := taken
  obtain ⟨checked, new, owner, rfl⟩ := put_writes inserted
  exact Books.Writes.leaves (.ordered _ new checked owner (.inr ⟨columns, time, allowed, stores⟩))

theorem OrderRows.finish_eq_some {ending : Ending} {id account service amount : Int} {time : Instant} {a : OrderRow}
    (answered : OrderRows.finish ending time id account service amount deferred b.tables = .ok (some a, t)) :
    t = (b.settled ending time id).tables ∧ ∃ order, Rows.find? Order.id id b.orders = some order ∧
      order.paid.agrees (.ofBool false) = true ∧ order.cancelled.agrees (.ofBool false) = true := by
  unfold OrderRows.finish at answered
  simp only [ordersOf_tables, ok_bind, bind_eq_ok] at answered
  obtain ⟨_, fits, answered⟩ := answered
  cases found : Rows.find? Order.id id b.orders with
  | none =>
    rw [found] at answered
    cases answered
  | some order =>
    rw [found] at answered
    dsimp only at answered
    split at answered
    · rename_i agrees
      cases answered
      simp only [isPendingMatch, Bool.and_eq_true] at agrees
      exact ⟨rfl, order, rfl, agrees.1.2, agrees.2⟩
    · cases answered

theorem OrderRows.finish_eq_none {ending : Ending} {id account service amount : Int} {time : Instant}
    (answered : OrderRows.finish ending time id account service amount deferred b.tables = .ok (none, t)) : t = b.tables := by
  unfold OrderRows.finish at answered
  simp only [ordersOf_tables, ok_bind, bind_eq_ok] at answered
  obtain ⟨_, _, answered⟩ := answered
  split at answered
  · cases answered
    rfl
  · split at answered <;> cases answered
    rfl

theorem OrderRows.finish_writes {ending : Ending} {id account service amount : Int} {time : Instant} {a : Option OrderRow}
    (shown : now.instant = .ok time) (answered : OrderRows.finish ending time id account service amount deferred b.tables = .ok (a, t)) :
    b.Leaves free now deferred t := by
  cases a with
  | none =>
    rw [OrderRows.finish_eq_none answered]
    exact .same
  | some a =>
    obtain ⟨rfl, order, found, pending⟩ := OrderRows.finish_eq_some answered
    exact Books.Writes.leaves (.ended ending id shown found pending)

theorem OrderRows.setFlags_writes {paid cancelled order : Argument} {a : Nat} (allowed : free (.setFlags paid cancelled order))
    (answered : OrderRows.setFlags paid cancelled order deferred b.tables = .ok (a, t)) :
    b.Leaves free now deferred t := by
  unfold OrderRows.setFlags at answered
  simp only [ordersOf_tables, ok_bind, bind_eq_ok] at answered
  obtain ⟨cells, bound, answered⟩ := answered
  have first : paid.Stores (cells[0]?.getD Cell.null).integral := Argument.stores_of_bindAll bound rfl
  have second : cancelled.Stores (cells[1]?.getD Cell.null).integral := Argument.stores_of_bindAll bound rfl
  split at answered
  · rename_i id named
    split at answered
    · cases answered
      exact Books.Leaves.same
    · rename_i row found
      simp only [bind_eq_ok, return_eq] at answered
      obtain ⟨_, isPaid, _, isCancelled, _, checked, answered⟩ := answered
      cases required_eq_ok isPaid
      cases required_eq_ok isCancelled
      cases answered
      exact Books.Writes.leaves (.flagged id found checked ⟨paid, cancelled, order, allowed, first, second⟩)
  · cases answered
    exact Books.Leaves.same

theorem LogRows.append_writes {draft : Draft} {a : Entry Instant} (shown : now.instant = .ok draft.createdAt)
    (answered : LogRows.append draft deferred b.tables = .ok (a, t)) : b.Leaves free now deferred t := by
  obtain ⟨kind, sender, receiver, amount, description?, time⟩ := draft
  unfold LogRows.append at answered
  simp only [logOf_tables, requireAccounts_tables, ok_bind, bind_eq_ok] at answered
  obtain ⟨_, _, answered⟩ := answered
  cases description? with
  | none => cases answered
  | some description =>
    simp only [throw_eq, error_bind, return_eq, guard_eq_ok] at answered
    obtain ⟨low, known, answered⟩ := answered
    cases answered
    refine Books.Writes.leaves (.posted kind sender receiver amount description shown (Int.not_lt.mp low) ?_)
    intro now
    simpa [now, Books.hasAccount_iff] using known

theorem LogRows.setAmounts_leaves {amount : Argument} {a : Nat} (guarded : b.log.Guarded)
    (answered : LogRows.setAmounts amount deferred b.tables = .ok (a, t)) : t = b.tables := by
  unfold LogRows.setAmounts at answered
  simp only [logOf_tables, ok_bind, bind_eq_ok, guarded.update, throw_eq, error_bind, return_eq, if_true] at answered
  obtain ⟨_, _, answered⟩ := answered
  split at answered
  · cases answered
    rfl
  · cases answered

theorem LogRows.deleteAll_leaves {a : Nat} (guarded : b.log.Guarded) (answered : LogRows.deleteAll deferred b.tables = .ok (a, t)) :
    t = b.tables := by
  unfold LogRows.deleteAll at answered
  simp only [logOf_tables, requireAccounts_tables, ok_bind, guarded.delete, throw_eq, error_bind, return_eq, if_true] at answered
  split at answered
  · cases answered
    rfl
  · cases answered

theorem Statement.answered_of_onSchema {α : Type} {query : Query α} {c c' : Database} {a : α} (books : c.schema = b.tables)
    (answered : query.onSchema deferred c = .ok (a, c')) : query deferred b.tables = .ok (a, c'.schema) := by
  unfold Statement.onSchema at answered
  simp only [books, bind_eq_ok, return_eq] at answered
  obtain ⟨⟨a', t'⟩, inner, ⟨⟩⟩ := answered
  exact inner

theorem Direct.query_writes {statement : Direct} {a : Direct.Effect} (guarded : b.log.Guarded) (allowed : free statement)
    (answered : statement.query deferred b.tables = .ok (a, t)) : b.Leaves free now deferred t := by
  cases statement with
  | insertAccount id balance =>
    obtain ⟨_, inserted, ⟨⟩⟩ := bind_eq_ok.mp answered
    exact AccountRows.insertCells_writes allowed inserted
  | insertOrder columns time =>
    obtain ⟨_, inserted, ⟨⟩⟩ := bind_eq_ok.mp answered
    exact OrderRows.insertColumns_writes allowed inserted
  | setFlags paid cancelled order =>
    obtain ⟨_, set, ⟨⟩⟩ := bind_eq_ok.mp answered
    exact OrderRows.setFlags_writes allowed set
  | setAmounts amount =>
    obtain ⟨_, set, ⟨⟩⟩ := bind_eq_ok.mp answered
    rw [LogRows.setAmounts_leaves guarded set]
    exact .same
  | deleteEntries =>
    obtain ⟨_, deleted, ⟨⟩⟩ := bind_eq_ok.mp answered
    rw [LogRows.deleteAll_leaves guarded deleted]
    exact .same
  | readMissing => cases answered
  | echo value =>
    obtain ⟨_, _, ⟨⟩⟩ := bind_eq_ok.mp answered
    exact .same
  | deferReferences =>
    cases answered
    exact .same

theorem LogRows.page_leaves {account : Int} {field : Option SortField} {direction : Direction} {limit offset : Option Int}
    {a : List (Entry Instant)} (answered : LogRows.page account field direction limit offset deferred b.tables = .ok (a, t)) :
    t = b.tables := by
  unfold LogRows.page at answered
  simp only [logOf_tables, ok_bind, bind_eq_ok] at answered
  obtain ⟨_, _, answered⟩ := answered
  split at answered
  · cases answered
    rfl
  · cases answered

theorem Books.Leaves.of_read {β γ : Type} {first : Except Refusal γ} {answer : γ → β} {a : β}
    (answered : (first >>= fun x => .ok (answer x, b.tables)) = .ok (a, t)) : b.Leaves free now deferred t := by
  obtain ⟨x, _, last⟩ := bind_eq_ok.mp answered
  cases last
  exact .same

/-- Whatever statement is put to books with a guarded log, it leaves them as they were or with one change. -/
theorem Given.writes {β : Type} {statement : Statement Database β} {a : β} {c c' : Database} (given : Given free now β statement)
    (guarded : b.log.Guarded) (books : c.schema = b.tables) (answered : statement deferred c = .ok (a, c')) :
    b.Leaves free now deferred c'.schema := by
  rcases given with put | reads
  · cases put with
    | findAccount id =>
      have answered := Statement.answered_of_onSchema books answered
      simp only [AccountRows.find, accountsOf_tables, ok_bind] at answered
      exact .of_read answered
    | insertAccount id => exact AccountRows.insert_writes (Statement.answered_of_onSchema books answered)
    | adjust amount delta id => exact AccountRows.adjust_writes (Statement.answered_of_onSchema books answered)
    | findOrder id =>
      have answered := Statement.answered_of_onSchema books answered
      simp only [OrderRows.find, ordersOf_tables, ok_bind] at answered
      exact .of_read answered
    | insertOrder id account service amount shown =>
      exact OrderRows.insert_writes shown (Statement.answered_of_onSchema books answered)
    | finishOrder ending id account service amount shown =>
      exact OrderRows.finish_writes shown (Statement.answered_of_onSchema books answered)
    | paidTotals first next =>
      have answered := Statement.answered_of_onSchema books answered
      simp only [OrderRows.paidTotals, ordersOf_tables, ok_bind] at answered
      exact .of_read answered
    | append draft shown => exact LogRows.append_writes shown (Statement.answered_of_onSchema books answered)
    | page account field direction limit offset =>
      rw [LogRows.page_leaves (Statement.answered_of_onSchema books answered)]
      exact .same
    | count account =>
      have answered := Statement.answered_of_onSchema books answered
      simp only [LogRows.count, logOf_tables, ok_bind] at answered
      exact .of_read answered
    | direct statement allowed => exact Direct.query_writes guarded allowed (Statement.answered_of_onSchema books answered)
  · rw [reads deferred c a c' answered, books]
    exact .same

end
end Passbook
