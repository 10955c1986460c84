import Passbook.Proofs.Lifecycle
import Passbook.Proofs.Openings

/-! The endings of orders, exactly. A pending order that agrees in every field is paid, and then nothing else changes, or it is
cancelled, and then its owner gets the reservation back. Any other order is told as missing, whatever is the matter with it. What an
ending relies on holds of every order the ledger has written, so that nothing but a full account can be in its way. -/
namespace Passbook
open Books OrderRows Time

def Direct.IsTame (statement : Direct) : Prop := statement.CountsAccounts ∧ statement.SparesOrders

/-- An order in the columns of which stands what the ledger itself writes there. Its account may be missing. -/
structure Order.Drafted (order : OrderRow) : Prop where
  fits : fitsInteger order.id = true
  account : ∃ account, order.account = .int account
  service : ∃ service, order.service = .int service ∧ fitsInteger service = true
  amount : ∃ amount, order.amount = .int amount ∧ 0 < amount ∧ amount ≤ maxInteger
  paid : ∃ paid, order.paid = .ofBool paid
  cancelled : ∃ cancelled, order.cancelled = .ofBool cancelled

section
variable {order : OrderRow} {id account service amount : Int} {time : Instant}

theorem Order.Drafted.opened (fits : ∀ n ∈ [id, account, service, amount], fitsInteger n = true)
    (checked : checkRow (.opened id account service amount time) = .ok ()) :
    (Order.opened id account service amount time).Drafted where
  fits := fits id (by simp)
  account := ⟨account, rfl⟩
  service := ⟨service, rfl, fits service (by simp)⟩
  amount := ⟨amount, rfl, (checkRow_whole checked rfl rfl rfl).1, (fitsInteger_bounds (fits amount (by simp))).2⟩
  paid := ⟨false, rfl⟩
  cancelled := ⟨false, rfl⟩

theorem Order.Drafted.finished (drafted : order.Drafted) (ending : Ending) (time : Instant) :
    (OrderRows.finished ending time order).Drafted := by
  cases ending with
  | paid => exact { drafted with paid := ⟨true, rfl⟩ }
  | cancelled => exact { drafted with cancelled := ⟨true, rfl⟩ }

theorem Order.Drafted.regular {b : Books} (drafted : order.Drafted) (owned : b.tables.hasOwner order.account = true) :
    b.Regular order := by
  obtain ⟨account, isAccount⟩ := drafted.account
  rw [isAccount] at owned
  exact { drafted with owner := ⟨account, isAccount, hasAccount_iff.mp owned⟩ }

end

namespace Books

/-- What holds of books that were left to the ledger. While references are deferred, orders may be without their accounts. -/
structure Tended (deferred : Bool) (b : Books) : Prop where
  guarded : b.log.Guarded
  banked : b.Banked
  orders : Rows.Ascending Order.id b.orders
  drafted : ∀ order ∈ b.orders, order.Drafted
  owned : deferred = false → ∀ order ∈ b.orders, b.tables.hasOwner order.account = true

theorem fresh_tended : fresh.Tended false where
  guarded := ⟨rfl, rfl⟩
  banked := fresh_sound.settleable.toBanked
  orders := .nil
  drafted _ among := nomatch among
  owned _ _ among := nomatch among

section
variable {b b' : Books} {now : Reading} {deferred : Bool}

theorem Tended.settleable (tended : b.Tended false) : b.Settleable where
  toBanked := tended.banked
  orders := tended.orders
  regular order among := (tended.drafted order among).regular (tended.owned rfl order among)

theorem Writes.tended (writes : b.Writes Direct.IsTame now deferred b') (tended : b.Tended deferred) : b'.Tended deferred := by
  have rows : Rows.Ascending Order.id b'.orders ∧ ∀ order ∈ b'.orders, order.Drafted := by
    rcases writes.orders (fun _ tame => tame.2) with same | ⟨id, account, service, amount, time, _, new, ⟨fits, checked⟩, added⟩ |
      ⟨ending, id, time, order, _, _, _, ended⟩
    · rw [same]
      exact ⟨tended.orders, tended.drafted⟩
    · rw [added]
      refine ⟨Rows.insert_ascending tended.orders new, fun order among => ?_⟩
      rcases Rows.mem_insert.mp among with rfl | among
      · exact .opened fits checked
      · exact tended.drafted order among
    · have keeps (row : OrderRow) : (finished ending time row).id = row.id := by cases ending <;> rfl
      rw [ended]
      refine ⟨Rows.update_ascending tended.orders keeps, fun order later => ?_⟩
      obtain ⟨old, among, rfl⟩ := Rows.mem_update.mp later
      split
      · exact (tended.drafted old among).finished ending time
      · exact tended.drafted old among
  refine ⟨writes.guarded tended.guarded, writes.banked (fun _ tame => tame.1) tended.banked, rows.1, rows.2, ?_⟩
  rintro rfl
  exact writes.owned (tended.owned rfl)

end

end Books

theorem Law.tended : Law (Given Direct.IsTame) (fun _ deferred c => ∃ b : Books, c.schema = b.tables ∧ b.Tended deferred)
    (fun _ _ => True) where
  nothing _ := trivial
  more _ _ := trivial
  statement given answered := by
    rintro ⟨b, books, tended⟩
    obtain ⟨b', books', rfl | writes⟩ := given.writes tended.guarded books answered
    · exact ⟨⟨b', books', tended⟩, trivial⟩
    · exact ⟨⟨b', books', writes.tended tended⟩, trivial⟩
  deferring := by
    rintro r deferred content ⟨b, books, tended⟩
    exact ⟨b, books, { tended with owned := nofun }⟩
  commit := by
    rintro r deferred content ⟨b, books, tended⟩ sound
    refine ⟨b, books, { tended with owned := fun _ => ?_ }⟩
    cases deferred with
    | false => exact tended.owned rfl
    | true => exact (Books.tied_of_deferred books sound).orders

namespace Books
variable {b : Books} {id account service amount : Int} {time : Instant}

instance : Decidable (b.Pending id account service amount) := inferInstanceAs (Decidable (∃ order ∈ b.orders, _))

def endingFault? (b : Books) (ending : Ending) (id account service amount : Int) : Option LedgerError :=
  if ¬ ∀ n ∈ [id, account, service, amount], fitsInteger n = true then some (.oversized (Orders.endingName ending))
  else if ¬ b.Pending id account service amount then some (.orderNotFound id)
  else none

def cancellationFault? (b : Books) (id account service amount : Int) : Option LedgerError :=
  (b.endingFault? .cancelled id account service amount).or
    (if maxInteger < b.balanceOf account + amount then some (.balanceOverflow account amount) else none)

/-- Of the orders one has changed, which was pending and agreed in every field. -/
structure Ended (b b₁ : Books) (id account service amount : Int) (order order' : OrderRow) : Prop where
  among : order ∈ b.orders
  named : order.id = id
  agrees : order.account = .int account ∧ order.service = .int service ∧ order.amount = .int amount
  pending : order.isPending = true
  sole : ∀ other ∈ b.orders, other.id = id → other = order
  orders : b₁.orders = b.orders.map fun other => if other.id = id then order' else other

structure Paid (b b₁ : Books) (id account service amount : Int) (time : Instant) (answer : OrderRow) : Prop where
  order : ∃ order, b.Ended b₁ id account service amount order answer ∧ answer = { order with paid := .ofBool true, updatedAt := time }
  accounts : b₁.accounts = b.accounts
  log : b₁.log = b.log

structure Cancelled (b b₁ : Books) (id account service amount : Int) (time : Instant) : Prop where
  order : ∃ order, b.Ended b₁ id account service amount order { order with cancelled := .ofBool true, updatedAt := time }
  accounts : b₁.accounts = b.accounts.map fun row => if row.id = account then { row with balance := row.balance + amount } else row
  log : b₁.log = { b.log with
    entries := b.entries ++
      [⟨(b.log.lastId + 1 : Nat), .cancelReservation, account, account, .int amount, cancellationText id amount, time⟩]
    lastId := b.log.lastId + 1 }

theorem endingFault?_kind {ending : Ending} {e : LedgerError} (told : b.endingFault? ending id account service amount = some e) :
    e.kind = .storage ∨ e.kind = .orderNotFound := by
  unfold endingFault? at told
  rw [refuse_eq_some, refuse_eq_some] at told
  rcases told with ⟨-, rfl⟩ | ⟨-, ⟨-, rfl⟩ | ⟨-, never⟩⟩
  · exact .inl rfl
  · exact .inr rfl
  · cases never

theorem pending?_eq_none : b.pending? id account service amount = none ↔ ¬ b.Pending id account service amount := by
  simp [pending?, Books.Pending]

namespace Settleable
variable (settleable : b.Settleable)
include settleable

theorem endingFault?_eq_none {ending : Ending} :
    b.Pending id account service amount ↔ b.endingFault? ending id account service amount = none := by
  unfold endingFault?
  rw [refuse_eq_none, refuse_eq_none, not_not, not_not]
  exact ⟨fun pending => ⟨settleable.pending_fits pending, pending, rfl⟩, fun ⟨_, pending, _⟩ => pending⟩

theorem cancellationFault?_eq_none : b.Pending id account service amount ∧ b.balanceOf account + amount ≤ maxInteger ↔
    b.cancellationFault? id account service amount = none := by
  unfold cancellationFault?
  rw [Option.or_eq_none_iff, refuse_eq_none, Int.not_lt, ← settleable.endingFault?_eq_none]
  simp

theorem ended_settled {order : OrderRow} (ending : Ending) (found : b.pending? id account service amount = some order) :
    b.Ended (b.settled ending time id) id account service amount order (finished ending time order) := by
  obtain ⟨among, named, isAccount, isService, isAmount, pending⟩ := pending?_eq_some found
  -- Rows are changed by their id alone; it is this row that has it.
  have sole (other : OrderRow) (there : other ∈ b.orders) (same : other.id = id) : other = order :=
    settleable.orders.unique there among (same.trans named.symm)
  refine ⟨among, named, ⟨isAccount, isService, isAmount⟩, pending, sole, List.map_congr_left fun other there => ?_⟩
  split
  · rw [sole other there ‹_›]
  · rfl

theorem finish_eq (ending : Ending) (time : Instant) (id account service amount : Int) :
    ∃ answer, Outcome.finish b time ending id account service amount =
    (b.endingFault? ending id account service amount).elim (.ok answer) .error ∧ (b.Pending id account service amount →
      ∃ order, answer = finished ending time order ∧ b.Ended (b.settled ending time id) id account service amount order answer) := by
  unfold Outcome.finish endingFault?
  cases found : b.pending? id account service amount with
  | none =>
    have missing := pending?_eq_none.mp found
    refine ⟨.opened id account service amount time, ?_, fun pending => absurd pending missing⟩
    by_cases fits : ∀ n ∈ [id, account, service, amount], fitsInteger n = true
    · rw [if_pos fits, if_neg (not_not.mpr fits), if_pos missing]
      rfl
    · rw [if_neg fits, if_pos fits]
      rfl
  | some order =>
    have pending : b.Pending id account service amount := by
      by_contra missing
      rw [pending?_eq_none.mpr missing] at found
      cases found
    have fits := settleable.pending_fits pending
    refine ⟨finished ending time order, ?_, fun _ => ⟨order, rfl, settleable.ended_settled ending found⟩⟩
    rw [if_pos fits, if_neg (not_not.mpr fits), if_neg (not_not.mpr pending)]
    rfl

theorem cancel_eq (time : Instant) : Outcome.cancel b time id account service amount =
    (b.cancellationFault? id account service amount).elim (.ok (b.balanceOf account + amount)) .error := by
  obtain ⟨_, finish, -⟩ := settleable.finish_eq .cancelled time id account service amount
  unfold Outcome.cancel cancellationFault?
  rw [finish]
  refine elim_bind fun _ => ?_
  split <;> rfl

end Settleable

theorem cancellationFault?_kind {e : LedgerError} (told : b.cancellationFault? id account service amount = some e) :
    e.kind = .storage ∨ e.kind = .orderNotFound ∨ e.kind = .balanceOverflow := by
  unfold cancellationFault? at told
  rw [Option.or_eq_some_iff, refuse_eq_some] at told
  rcases told with ends | ⟨-, ⟨-, rfl⟩ | ⟨-, never⟩⟩
  · exact (endingFault?_kind ends).imp_right .inl
  · exact .inr (.inr rfl)
  · cases never

end Books

namespace Orders
variable (s : Store Database) (time : Instant) (b : Books) (id account service amount : Int)

/-- Paying is answered if and only if the order is pending as it is told, and then does just that; if not, it tells why and changes
nothing. -/
def PaysExactly : Prop :=
  ∃ b₁ answer, (pay id account service amount).Exactly time s b₁ (b.Pending id account service amount) answer
      (b.endingFault? .paid id account service amount) ∧
    (b.Pending id account service amount → b.Paid b₁ id account service amount time answer) ∧
    ∀ e, b.endingFault? .paid id account service amount = some e → e.kind = .storage ∨ e.kind = .orderNotFound

def CancelsExactly : Prop :=
  ∃ b₁, (cancel id account service amount).Exactly time s b₁
      (b.Pending id account service amount ∧ b.balanceOf account + amount ≤ maxInteger) (b.balanceOf account + amount)
      (b.cancellationFault? id account service amount) ∧
    (b.Pending id account service amount → b.Cancelled b₁ id account service amount time) ∧
    ∀ e, b.cancellationFault? id account service amount = some e →
      e.kind = .storage ∨ e.kind = .orderNotFound ∨ e.kind = .balanceOverflow

variable {s time b} (settleable : b.Settleable) (rests : s.Rests time) (books : s.content.schema = b.tables)
include settleable rests books

theorem pay_exactly : PaysExactly s time b id account service amount := by
  obtain ⟨answer, finish, ends⟩ := settleable.finish_eq .paid time id account service amount
  refine ⟨b.settled .paid time id, answer, ?_, fun pending => ?_, fun _ => endingFault?_kind⟩
  · refine Operation.EndsAlone.exactly ?_ settleable.endingFault?_eq_none (fun _ _ => ⟨_, rfl⟩) (fun _ => finish_puts _ _ _ _ _) rests
      books
    rw [← finish]
    exact pay_ends settleable
  · obtain ⟨order, rfl, ended⟩ := ends pending
    exact ⟨⟨order, ended, rfl⟩, rfl, rfl⟩

theorem cancel_exactly : CancelsExactly s time b id account service amount := by
  refine ⟨b.cancelled id account amount time, ?_, fun pending => ?_, fun _ => cancellationFault?_kind⟩
  · refine Operation.EndsAlone.exactly ?_ settleable.cancellationFault?_eq_none (fun _ _ => ⟨_, rfl⟩)
      (fun _ => cancel_puts _ _ _ _) rests books
    rw [← settleable.cancel_eq time]
    exact cancel_ends settleable
  · obtain ⟨_, -, ends⟩ := settleable.finish_eq .cancelled time id account service amount
    obtain ⟨order, rfl, ended⟩ := ends pending
    exact ⟨⟨order, { ended with orders := ended.orders }⟩, rfl, rfl⟩

end Orders

namespace Host
variable {τ : Type} [Add τ] [Sub τ] [LT τ] [DecidableLT τ] [Reach τ]

/-- Wherever a run of ordinary errands has come to, an order is paid on its own, or cancelled, if and only if it is pending as it is
told and its owner has room for what comes back. -/
theorem runAll_ends (h : Host τ) (b₀ : Books) (idle : h.system.store.status = .idle)
    (books : h.system.store.content.schema = b₀.tables)
    (tended : b₀.Tended false) (before : List (Plan (Errand τ))) (ordinary : Plan.AllOf (Errand.Ordinary Direct.IsTame) before)
    (time : Instant) (now : (runAll before h).system.store.now = .universal time) (id account service amount : Int) :
    ∃ b : Books, (runAll before h).system.store.content.schema = b.tables ∧
      Orders.PaysExactly (runAll before h).system.store time b id account service amount ∧
      Orders.CancelsExactly (runAll before h).system.store time b id account service amount := by
  obtain ⟨idle₁, b, books₁, tended₁⟩ := runAll_keeps Law.tended ordinary idle ⟨b₀, books, tended⟩
  exact ⟨b, books₁, Orders.pay_exactly id account service amount tended₁.settleable ⟨idle₁, now⟩ books₁,
    Orders.cancel_exactly id account service amount tended₁.settleable ⟨idle₁, now⟩ books₁⟩

/-- An account that has been filled up since the order was made: the order can be paid, but not cancelled. -/
theorem runAll_ends_full :
    let _ : Reach Int := .everywhere Int
    let host : Host Int := .holding .fresh .default
    let before : List (Plan (Errand Int)) := [.call (.call (.credit 1 40)) false false,
      .call (.call (.createOrder 7 1 5 30)) false false, .call (.call (.credit 1 (maxInteger - 10))) false false]
    (host.system.store.status = .idle ∧ host.system.store.content.schema = Books.fresh.tables ∧ Books.fresh.Tended false ∧
      Plan.AllOf (Errand.Ordinary Direct.IsTame) before ∧ (runAll before host).system.store.now = .universal .default) ∧
      ∃ b : Books, (runAll before host).system.store.content.schema = b.tables ∧
        Orders.PaysExactly (runAll before host).system.store .default b 7 1 5 30 ∧
        Orders.CancelsExactly (runAll before host).system.store .default b 7 1 5 30 := by
  intro _ host before
  have ordinary : Plan.AllOf (Errand.Ordinary Direct.IsTame) before := ⟨trivial, trivial, trivial, trivial⟩
  have now : (runAll before host).system.store.now = .universal .default := by decide +kernel
  exact ⟨⟨rfl, rfl, Books.fresh_tended, ordinary, now⟩,
    runAll_ends host .fresh rfl rfl Books.fresh_tended before ordinary .default now 7 1 5 30⟩

end Host
end Passbook
