import Passbook.Proofs.Banking
import Passbook.Proofs.Timestamps

/-! New orders, exactly. The funds are taken first, so a lack of them is told before anything that is wrong with the order itself;
the balance, the row and the entry are written together or not at all. -/
namespace Passbook
open OrderRows Time

namespace Books

/-- What a new order needs. -/
structure CanOrder (b : Books) (id account service amount : Int) : Prop where
  positive : 1 ≤ amount
  bounded : amount ≤ maxInteger
  owner : b.Has account
  funds : amount ≤ b.balanceOf account
  fits : fitsInteger id = true
  served : fitsInteger service = true
  new : ∀ order ∈ b.orders, order.id ≠ id

def rowFault? (b : Books) (id service : Int) : Option LedgerError :=
  if ¬ (fitsInteger id = true ∧ fitsInteger service = true) then some (.oversized "insert order")
  else if (b.order? id).isSome then some (.orderExists id)
  else none

def orderFault? (b : Books) (id account service amount : Int) : Option LedgerError :=
  (amountFault? "Order amount" amount).or ((b.debitFault? account amount).or (b.rowFault? id service))

/-- One balance has changed, one order and one entry have been added, and that is all. -/
structure Ordered (b b₁ : Books) (id account service amount : Int) (time : Instant) : Prop where
  accounts : b₁.accounts = b.accounts.map fun row =>
    if row.id = account then { row with balance := row.balance - amount } else row
  row : Order.opened id account service amount time = ⟨id, .int account, .int service, .int amount, .int 0, .int 0, time, time⟩
  orders : b₁.orders = Rows.insert Order.id ⟨id, .int account, .int service, .int amount, .int 0, .int 0, time, time⟩ b.orders
  log : b₁.log = { b.log with
    entries := b.entries ++
      [⟨(b.log.lastId + 1 : Nat), .reservation, account, account, .int amount, reservationText id amount, time⟩]
    lastId := b.log.lastId + 1 }

variable {b : Books} {id account service amount : Int} {time : Instant}

theorem ordered_ordered : b.Ordered (b.ordered id account service amount time) id account service amount time := by
  refine ⟨?_, rfl, rfl, rfl⟩
  simp only [Int.sub_eq_add_neg]
  rfl

theorem rowFault?_eq_none : b.rowFault? id service = none ↔
    (fitsInteger id = true ∧ fitsInteger service = true) ∧ ∀ order ∈ b.orders, order.id ≠ id := by
  unfold rowFault?
  rw [new_iff, refuse_eq_none, refuse_eq_none, not_not]
  simp

theorem row_eq : Outcome.insertOrder b time id account service amount =
    (b.rowFault? id service).elim (.ok (.opened id account service amount time)) .error := by
  unfold Outcome.insertOrder rowFault?
  by_cases fits : fitsInteger id = true ∧ fitsInteger service = true
  · by_cases taken : (b.order? id).isSome = true <;> simp [fits, taken]
  · simp [fits]

theorem Banked.canOrder_iff (banked : b.Banked) :
    b.CanOrder id account service amount ↔ b.orderFault? id account service amount = none := by
  unfold orderFault?
  rw [Option.or_eq_none_iff, Option.or_eq_none_iff, amountFault?_eq_none, banked.debitFault?_eq_none, rowFault?_eq_none]
  constructor
  · rintro ⟨positive, bounded, owner, funds, fits, served, new⟩
    exact ⟨⟨positive, bounded⟩, ⟨owner, funds⟩, ⟨fits, served⟩, new⟩
  · rintro ⟨⟨positive, bounded⟩, ⟨owner, funds⟩, ⟨fits, served⟩, new⟩
    exact ⟨positive, bounded, owner, funds, fits, served, new⟩

theorem Banked.order_eq (banked : b.Banked) : Outcome.create b time id account service amount =
    (b.orderFault? id account service amount).elim (.ok (.opened id account service amount time, b.balanceOf account - amount)) .error := by
  unfold Outcome.create
  rw [checkPositive_eq]
  refine elim_bind fun none => ?_
  obtain ⟨low, high⟩ := amountFault?_eq_none.mp none
  rw [banked.debit_eq low high, row_eq]
  exact elim_bind fun _ => elim_bind_pure _

theorem CanOrder.order?_ordered (can : b.CanOrder id account service amount) :
    (b.ordered id account service amount time).order? id = some (.opened id account service amount time) :=
  (Rows.find?_insert can.new).trans (if_pos rfl)

end Books

theorem Orders.create_exactly {b : Books} (banked : b.Banked) {time : Instant} {s : Store Database} (rests : s.Rests time)
    (books : s.content.schema = b.tables) (id account service amount : Int) :
    (Orders.create id account service amount).Exactly time s (b.ordered id account service amount time)
      (b.CanOrder id account service amount) (.opened id account service amount time, b.balanceOf account - amount)
      (b.orderFault? id account service amount) := by
  refine Operation.EndsAlone.exactly ?_ banked.canOrder_iff (fun _ _ => ⟨_, rfl⟩) (fun _ => create_puts _ _ _ _) rests books
  rw [← banked.order_eq]
  exact create_ends banked.accounts

structure Orders.Finds (order : OrderRow) (s : Store Database) : Prop where
  found : ((Orders.lookup order.id).alone s).1 = .ok order
  kept : ((Orders.lookup order.id).alone s).2.content = s.content

theorem Orders.finds_of_order? {b : Books} {time : Instant} {s : Store Database} (rests : s.Rests time)
    (books : s.content.schema = b.tables) {order : OrderRow} (fits : fitsInteger order.id = true)
    (found : b.order? order.id = some order) : Orders.Finds order s := by
  have outcome : Outcome.lookup b order.id = (none : Option LedgerError).elim (.ok order) .error := by
    unfold Outcome.lookup
    rw [if_pos fits, found]
    rfl
  have exactly : (Orders.lookup order.id).Exactly time s b True order none :=
    Operation.EndsAlone.exactly (outcome ▸ lookup_ends) (by simp) (fun _ _ => ⟨_, rfl⟩) (fun _ => get_puts order.id) rests books
  obtain ⟨answers, content⟩ := exactly.answered trivial
  exact ⟨answers, content.trans (by rw [← books])⟩

/-- Pending since a time, which the text that is stored for it tells as well. -/
structure Order.PendingSince (order : OrderRow) (time : Instant) : Prop where
  pending : order.isPending = true
  created : order.createdAt = time
  updated : order.updatedAt = time
  told : Reading.ofText time.stamp = .ok (.universal time)

theorem Order.opened_pendingSince (id account service amount : Int) (time : Instant) :
    (Order.opened id account service amount time).PendingSince time :=
  ⟨rfl, rfl, rfl, time.ofText_stamp⟩

namespace Host
variable {τ : Type} [Add τ] [Sub τ] [LT τ] [DecidableLT τ] [Reach τ]

/-- Wherever a run of ordinary errands has come to, an order is opened on its own if and only if all that it needs is there; it is
pending, and found again as it was answered. If something is lacking the first fault is told and nothing changes. -/
theorem runAll_creates (h : Host τ) (b₀ : Books) (idle : h.system.store.status = .idle)
    (books : h.system.store.content.schema = b₀.tables) (guarded : b₀.log.Guarded) (banked : b₀.Banked)
    (before : List (Plan (Errand τ))) (ordinary : Plan.AllOf (Errand.Ordinary Direct.CountsAccounts) before) (time : Instant)
    (now : (runAll before h).system.store.now = .universal time) (id account service amount : Int) :
    ∃ b b₁ : Books, (runAll before h).system.store.content.schema = b.tables ∧
      (Orders.create id account service amount).Exactly time (runAll before h).system.store b₁
        (b.CanOrder id account service amount) (.opened id account service amount time, b.balanceOf account - amount)
        (b.orderFault? id account service amount) ∧
      (b.CanOrder id account service amount → b.Ordered b₁ id account service amount time ∧
        (Order.opened id account service amount time).PendingSince time ∧
        Orders.Finds (.opened id account service amount time)
          ((Orders.create id account service amount).alone (runAll before h).system.store).2) := by
  obtain ⟨idle₁, b, books₁, -, banked₁⟩ := runAll_banked idle books guarded banked ordinary
  have exactly := Orders.create_exactly banked₁ ⟨idle₁, now⟩ books₁ id account service amount
  refine ⟨b, b.ordered id account service amount time, books₁, exactly, fun can => ?_⟩
  have content := (exactly.answered can).2
  exact ⟨Books.ordered_ordered, Order.opened_pendingSince id account service amount time,
    Orders.finds_of_order? exactly.rests (congrArg Catalog.schema content) can.fits can.order?_ordered⟩

/-- All that there is on the account is reserved. -/
theorem runAll_creates_whole_balance :
    let _ : Reach Int := .everywhere Int
    let b₀ : Books := { Books.fresh with accounts := [⟨1, 10⟩] }
    let host : Host Int := .holding b₀ .default
    let before : List (Plan (Errand Int)) := [.call (.call (.credit 1 30)) false false]
    (host.system.store.status = .idle ∧ host.system.store.content.schema = b₀.tables ∧ b₀.log.Guarded ∧ b₀.Banked ∧
      Plan.AllOf (Errand.Ordinary Direct.CountsAccounts) before ∧ (runAll before host).system.store.now = .universal .default) ∧
      ∃ b b₁ : Books, (runAll before host).system.store.content.schema = b.tables ∧
        (Orders.create 7 1 5 40).Exactly .default (runAll before host).system.store b₁ (b.CanOrder 7 1 5 40)
          (.opened 7 1 5 40 .default, b.balanceOf 1 - 40) (b.orderFault? 7 1 5 40) ∧
        (b.CanOrder 7 1 5 40 → b.Ordered b₁ 7 1 5 40 .default ∧ (Order.opened 7 1 5 40 Instant.default).PendingSince .default ∧
          Orders.Finds (.opened 7 1 5 40 .default) ((Orders.create 7 1 5 40).alone (runAll before host).system.store).2) := by
  intro _ b₀ host before
  have banked : b₀.Banked := Books.banked_of_rows (by unfold Rows.Ascending; decide) (by decide)
  have now : (runAll before host).system.store.now = .universal .default := rfl
  exact ⟨⟨rfl, rfl, ⟨rfl, rfl⟩, banked, ⟨trivial, trivial⟩, now⟩,
    runAll_creates host b₀ rfl rfl ⟨rfl, rfl⟩ banked before ⟨trivial, trivial⟩ .default now 7 1 5 40⟩

end Host
end Passbook
