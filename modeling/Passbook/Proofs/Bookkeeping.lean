import Passbook.Proofs.Turns

/-! What the statements of the ledger make of its books. A statement on accounts or orders finds a row by its key; an entry is
always taken, as the accounts it names are there by then. -/
namespace Passbook
open AccountRows OrderRows LogRows Time

section
variable {b : Books} {id account service amount delta sender receiver : Int} {time : Instant}

@[simp] theorem accountsOf_tables : accountsOf b.tables = .ok b.accounts := rfl

@[simp] theorem ordersOf_tables : ordersOf b.tables = .ok b.orders := rfl

@[simp] theorem requireAccounts_tables : requireAccounts b.tables = .ok () := rfl

@[simp] theorem ok_bind {ε α β : Type} (a : α) (next : α → Except ε β) : (Except.ok a >>= next) = next a := rfl

@[simp] theorem error_bind {ε α β : Type} (e : ε) (next : α → Except ε β) :
    ((Except.error e : Except ε α) >>= next) = .error e := rfl

@[simp] theorem throw_eq {ε α : Type} (e : ε) : (throw e : Except ε α) = .error e := rfl

@[simp] theorem return_eq {ε α : Type} (a : α) : (pure a : Except ε α) = .ok a := rfl

theorem bind_eq_ok {ε α β : Type} {x : Except ε α} {next : α → Except ε β} {b : β} :
    (x >>= next) = .ok b ↔ ∃ a, x = .ok a ∧ next a = .ok b := by
  cases x with
  | ok a => simp
  | error e => simp

theorem ok_of_mapError {ε ε' α : Type} {x : Except ε α} {change : ε → ε'} {a : α} (told : x.mapError change = .ok a) :
    x = .ok a := by
  cases x with
  | ok _ =>
    cases told
    rfl
  | error _ => cases told

theorem bindAll_eq (values : List Int) :
    bindAll values = if ∀ n ∈ values, fitsInteger n = true then .ok () else .error .oversizedInteger := by
  simp [bindAll]

theorem fitsInteger_bounds {n : Int} (fits : fitsInteger n = true) : minInteger ≤ n ∧ n ≤ maxInteger := by
  simpa [fitsInteger] using fits

theorem fitsInteger_of_nonneg {n : Int} (low : 0 ≤ n) (high : n ≤ maxInteger) : fitsInteger n = true := by
  have start : minInteger ≤ 0 := by decide
  simp only [fitsInteger, Bool.and_eq_true, decide_eq_true_eq]
  omega

theorem Books.opened_ascending (id : Int) (ascending : Rows.Ascending Account.id b.accounts) :
    Rows.Ascending Account.id (b.opened id).accounts := by
  by_cases there : b.Has id
  · rw [Books.opened_of_has there]
    exact ascending
  · rw [Books.opened_of_not_has there]
    exact Rows.insert_ascending ascending fun row among same => there ⟨row, among, same⟩

theorem AccountRows.find_tables (id : Int) (deferred : Bool) : AccountRows.find id deferred b.tables =
    if fitsInteger id = true then .ok (b.account? id, b.tables) else .error .oversizedInteger := by
  by_cases fits : fitsInteger id = true <;> simp [AccountRows.find, bindAll_eq, fits, Books.account?]

theorem AccountRows.insert_tables (absent : ¬ b.Has id) (deferred : Bool) : AccountRows.insert id deferred b.tables =
    if fitsInteger id = true then .ok (⟨id, 0⟩, (b.opened id).tables) else .error .oversizedInteger := by
  have other : Rows.contains Account.id id b.accounts = false := by
    rw [← Bool.not_eq_true, Rows.contains_iff]
    exact absent
  rw [Books.opened_of_not_has absent]
  by_cases fits : fitsInteger id = true
  · simp [AccountRows.insert, bindAll_eq, AccountRows.put, fits, other]
    rfl
  · simp [AccountRows.insert, bindAll_eq, fits]

theorem AccountRows.insert_turns (absent : ¬ b.Has id) :
    (AccountRows.insert id).Turns b (fitsInteger id = true) (fun _ => True) (b.opened id) := by
  unfold Statement.Turns
  rw [AccountRows.insert_tables absent]
  by_cases fits : fitsInteger id = true <;> simp [fits]

theorem Books.shifted_of_found (delta : Int) (ascending : Rows.Ascending Account.id b.accounts) {row : Account}
    (found : b.account? id = some row) :
    Rows.update Account.id id (fun a => { a with balance := row.balance + delta }) b.accounts = (b.shifted id delta).accounts := by
  obtain ⟨among, named⟩ := Rows.find?_some found
  apply List.map_congr_left
  intro other later
  split
  · rename_i same
    rw [ascending.unique later among (same.trans named.symm)]
  · rfl

theorem AccountRows.adjust_tables (ascending : Rows.Ascending Account.id b.accounts) (deferred : Bool) :
    AccountRows.adjust amount delta id deferred b.tables =
      if fitsInteger amount ∧ fitsInteger id then
        if b.Has id then
          if b.balanceOf id + delta < 0 then .error (.violated (.check "accounts_balance_non_negative"))
          else if maxInteger < b.balanceOf id + delta then .error (.violated (.check "accounts_balance_integer"))
          else .ok (some (b.balanceOf id + delta), (b.shifted id delta).tables)
        else .ok (none, b.tables)
      else .error .oversizedInteger := by
  by_cases fits : fitsInteger amount = true ∧ fitsInteger id = true
  · rw [if_pos fits]
    by_cases there : b.Has id
    · obtain ⟨row, found⟩ := Books.has_iff_account?.mp there
      have known : Rows.find? Account.id id b.accounts = some row := found
      rw [if_pos there, Books.balanceOf_of_found found]
      by_cases low : row.balance + delta < 0
      · simp [AccountRows.adjust, bindAll_eq, fits, known, low]
      · by_cases high : maxInteger < row.balance + delta
        · simp [AccountRows.adjust, bindAll_eq, fits, known, low, high]
        · simp [AccountRows.adjust, bindAll_eq, fits, known, low, high, Books.shifted_of_found delta ascending found]
          rfl
    · have unknown : Rows.find? Account.id id b.accounts = none := Books.account?_of_not_has there
      simp [AccountRows.adjust, bindAll_eq, fits, unknown, there]
  · simp [AccountRows.adjust, bindAll_eq, fits]

theorem AccountRows.adjust_turns_found (delta : Int) (sound : b.Sound) (fits : fitsInteger amount = true) {row : Account}
    (found : b.account? id = some row) :
    (AccountRows.adjust amount delta id).Turns b (0 ≤ row.balance + delta ∧ row.balance + delta ≤ maxInteger)
      (· = some (row.balance + delta)) (b.shifted id delta) := by
  have there : b.Has id := Books.has_iff_account?.mpr ⟨row, found⟩
  unfold Statement.Turns
  rw [AccountRows.adjust_tables sound.accounts, if_pos ⟨fits, sound.known id there⟩, if_pos there, Books.balanceOf_of_found found]
  by_cases low : row.balance + delta < 0
  · rw [if_pos low]
    exact fun room => by omega
  · rw [if_neg low]
    by_cases high : maxInteger < row.balance + delta
    · rw [if_pos high]
      exact fun room => by omega
    · rw [if_neg high]
      exact ⟨by omega, rfl, rfl⟩

theorem AccountRows.adjust_turns_absent (delta : Int) (ascending : Rows.Ascending Account.id b.accounts)
    (fits : fitsInteger amount = true) (absent : ¬ b.Has id) :
    (AccountRows.adjust amount delta id).Turns b (fitsInteger id = true) (· = none) b := by
  unfold Statement.Turns
  rw [AccountRows.adjust_tables ascending]
  by_cases named : fitsInteger id = true <;> simp [fits, named, absent]

theorem Books.tables_reserved : (b.reserved id account service amount time).tables =
    { b.tables with orders := some (Rows.insert Order.id (.opened id account service amount time) b.orders) } := rfl

theorem checkRow_opened (id account service : Int) (time : Instant) (positive : 0 < amount) :
    checkRow (.opened id account service amount time) = .ok () := by
  have size : ((Cell.int amount).compare (.int 0)).isGT = true := by
    simp only [Cell.compare, Ordering.isGT_iff_eq_gt, Int.compare_eq_gt]
    exact positive
  simp [checkRow, Order.opened, size, Cell.ofBool, Cell.isTrue]

theorem OrderRows.insert_tables (id service : Int) (time : Instant) (owner : b.Has account) (fitsAccount : fitsInteger account = true)
    (fitsAmount : fitsInteger amount = true) (positive : 0 < amount) (deferred : Bool) :
    OrderRows.insert id account service amount time deferred b.tables =
      if fitsInteger id = true ∧ fitsInteger service = true then
        if Rows.contains Order.id id b.orders = true then .error (.violated (.unique "orders.order_id"))
        else .ok (.opened id account service amount time, (b.reserved id account service amount time).tables)
      else .error .oversizedInteger := by
  have checked := checkRow_opened id account service time positive
  have named : (Order.opened id account service amount time).id = id := rfl
  have owned : b.tables.hasOwner (Order.opened id account service amount time).account = true := Books.hasAccount_iff.mpr owner
  unfold OrderRows.insert
  by_cases fits : fitsInteger id = true ∧ fitsInteger service = true
  · obtain ⟨idFits, served⟩ := fits
    by_cases taken : Rows.contains Order.id id b.orders = true
    · simp [bindAll_eq, idFits, served, fitsAccount, fitsAmount, OrderRows.put, checked, named, taken]
    · simp [bindAll_eq, idFits, served, fitsAccount, fitsAmount, OrderRows.put, checked, named, taken, owned, Books.tables_reserved]
  · simp only [ordersOf_tables, requireAccounts_tables, ok_bind, bindAll_eq]
    rw [if_neg fits, if_neg fun all => fits ⟨all id (by simp), all service (by simp)⟩]
    rfl

theorem OrderRows.insert_turns (owner : b.Has account) (fitsAccount : fitsInteger account = true)
    (fitsAmount : fitsInteger amount = true) (positive : 0 < amount) :
    (OrderRows.insert id account service amount time).Turns b
      (fitsInteger id = true ∧ fitsInteger service = true ∧ ∀ order ∈ b.orders, order.id ≠ id)
      (fun _ => True) (b.reserved id account service amount time) := by
  unfold Statement.Turns
  rw [OrderRows.insert_tables id service time owner fitsAccount fitsAmount positive]
  by_cases fits : fitsInteger id = true ∧ fitsInteger service = true
  · rw [if_pos fits]
    by_cases taken : Rows.contains Order.id id b.orders = true
    · obtain ⟨order, among, same⟩ := Rows.contains_iff.mp taken
      rw [if_pos taken]
      exact fun held => held.2.2 order among same
    · have new : ∀ order ∈ b.orders, order.id ≠ id := fun order among same => taken (Rows.contains_iff.mpr ⟨order, among, same⟩)
      rw [if_neg taken]
      exact ⟨⟨fits.1, fits.2, new⟩, trivial, rfl⟩
  · rw [if_neg fits]
    exact fun held => fits ⟨held.1, held.2.1⟩

def Books.Pending (b : Books) (id account service amount : Int) : Prop :=
  ∃ order ∈ b.orders, order.id = id ∧ order.account = .int account ∧ order.service = .int service ∧
    order.amount = .int amount ∧ order.isPending = true

theorem Order.isPending_iff {order : OrderRow} : order.isPending = true ↔ order.isPaid = false ∧ order.isCancelled = false := by
  unfold Order.isPending Order.state
  cases order.isPaid <;> cases order.isCancelled <;> decide

theorem Cell.agrees_int (m n : Int) : (Cell.int m).agrees (.int n) = true ↔ m = n := by
  simp [Cell.agrees, Cell.compare]

theorem Books.Regular.isPendingMatch_iff {order : OrderRow} (regular : b.Regular order) :
    isPendingMatch account service amount order = true ↔
      order.account = .int account ∧ order.service = .int service ∧ order.amount = .int amount ∧ order.isPending = true := by
  obtain ⟨account', isAccount, _⟩ := regular.owner
  obtain ⟨service', isService, _⟩ := regular.service
  obtain ⟨amount', isAmount, _, _⟩ := regular.amount
  obtain ⟨paid, isPaid⟩ := regular.paid
  obtain ⟨cancelled, isCancelled⟩ := regular.cancelled
  have flags : (order.paid.agrees (.ofBool false) && order.cancelled.agrees (.ofBool false)) = order.isPending := by
    rw [Order.isPending, Order.state, Order.isPaid, Order.isCancelled, isPaid, isCancelled]
    cases paid <;> cases cancelled <;> rfl
  unfold isPendingMatch
  rw [Bool.and_assoc, flags, isAccount, isService, isAmount]
  simp [Cell.agrees_int, and_assoc]

theorem Books.tables_settled (ending : Ending) : (b.settled ending time id).tables =
    { b.tables with orders := some (Rows.update Order.id id (finished ending time) b.orders) } := rfl

theorem Books.Settleable.pending (settleable : b.Settleable) (pending : b.Pending id account service amount) :
    fitsInteger id = true ∧ b.Has account ∧ fitsInteger service = true ∧ 0 < amount ∧ amount ≤ maxInteger := by
  obtain ⟨order, among, rfl, isAccount, isService, isAmount, _⟩ := pending
  have regular := settleable.regular order among
  obtain ⟨account', equal, there⟩ := regular.owner
  obtain ⟨service', equal', served⟩ := regular.service
  obtain ⟨amount', equal'', low, high⟩ := regular.amount
  cases isAccount.symm.trans equal
  cases isService.symm.trans equal'
  cases isAmount.symm.trans equal''
  exact ⟨regular.fits, there, served, low, high⟩

theorem Books.Settleable.pending_fits (settleable : b.Settleable) (pending : b.Pending id account service amount) :
    ∀ n ∈ [id, account, service, amount], fitsInteger n = true := by
  obtain ⟨fits, there, served, low, high⟩ := settleable.pending pending
  have held := fitsInteger_of_nonneg (Int.le_of_lt low) high
  simp [fits, settleable.known account there, served, held]

theorem OrderRows.finish_turns_pending {ending : Ending} (sound : b.Sound) (pending : b.Pending id account service amount) :
    (OrderRows.finish ending time id account service amount).Turns b True
      (fun answer => ∃ order, answer = some order ∧ order.account = .int account ∧ order.amount = .int amount)
      (b.settled ending time id) := by
  have fits := sound.settleable.pending_fits pending
  obtain ⟨order, among, rfl, agrees⟩ := pending
  have ⟨isAccount, _, isAmount, _⟩ := agrees
  have agreed := (sound.regular order among).isPendingMatch_iff.mpr agrees
  have found := Rows.find?_of_mem sound.orders among
  have kept : (finished ending time order).account = .int account ∧ (finished ending time order).amount = .int amount := by
    cases ending
    · exact ⟨isAccount, isAmount⟩
    · exact ⟨isAccount, isAmount⟩
  unfold Statement.Turns OrderRows.finish
  simpa [bindAll_eq, fits, found, agreed, Books.tables_settled] using kept

theorem OrderRows.finish_turns_none {ending : Ending} (sound : b.Sound) (absent : ¬ b.Pending id account service amount) :
    (OrderRows.finish ending time id account service amount).Turns b (∀ n ∈ [id, account, service, amount], fitsInteger n = true)
      (· = none) b := by
  unfold Statement.Turns OrderRows.finish
  rw [ordersOf_tables, ok_bind, bindAll_eq]
  by_cases fits : ∀ n ∈ [id, account, service, amount], fitsInteger n = true
  · rw [if_pos fits, ok_bind]
    cases found : Rows.find? Order.id id b.orders with
    | none => exact ⟨fits, rfl, rfl⟩
    | some order =>
      obtain ⟨among, named⟩ := Rows.find?_some found
      have differs : ¬ isPendingMatch account service amount order = true := by
        intro agreed
        exact absent ⟨order, among, named, (sound.regular order among).isPendingMatch_iff.mp agreed⟩
      simp only [differs, Bool.false_eq_true, if_false]
      exact ⟨fits, rfl, rfl⟩
  · rw [if_neg fits]
    exact fits

theorem LogRows.append_eq (kind : EntryKind) (time : Instant) {description : String} (plain : Text.Plain description)
    (fits : fitsInteger sender = true ∧ fitsInteger receiver = true) (from_ : b.Has sender) (to_ : b.Has receiver) (low : 0 ≤ amount)
    (high : amount ≤ maxInteger) : ∃ entry, ∀ deferred,
      LogRows.append ⟨kind, sender, receiver, amount, some description, time⟩ deferred b.tables =
        .ok (entry, (b.posted kind sender receiver amount description time).tables) := by
  have bound : Argument.bindAll
      [Argument.ofInt sender, Argument.ofInt receiver, Argument.ofInt amount, Argument.ofText description] =
      .ok [.int sender, .int receiver, .int amount, .text description] := by
    simp [Argument.bindAll, Argument.bind, Argument.ofInt, Argument.ofText, fits, fitsInteger_of_nonneg low high, plain.encodable,
      List.zipIdx]
  have nonnegative : ¬ amount < 0 := by omega
  unfold LogRows.append
  simp [bound, nonnegative, Books.hasAccount_iff.mpr from_, Books.hasAccount_iff.mpr to_]
  exact ⟨_, rfl⟩

theorem LogRows.append_turns {kind : EntryKind} {description : String} (sound : b.Sound) (plain : Text.Plain description)
    (from_ : b.Has sender) (to_ : b.Has receiver) (low : 0 ≤ amount) (high : amount ≤ maxInteger) :
    (LogRows.append ⟨kind, sender, receiver, amount, some description, time⟩).Turns b True
      (fun _ => True) (b.posted kind sender receiver amount description time) := by
  have fits := And.intro (sound.known sender from_) (sound.known receiver to_)
  obtain ⟨entry, appended⟩ := LogRows.append_eq kind time plain fits from_ to_ low high
  unfold Statement.Turns
  rw [appended]
  exact ⟨trivial, trivial, rfl⟩

end

end Passbook
