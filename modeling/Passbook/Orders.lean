import Passbook.Accounts
/-! Orders: one is created pending with its amount reserved, then paid, which makes the reservation final, or cancelled,
which returns it. -/
namespace Passbook.Orders
open Journal OrderRows Time

def recastInsertion (order account : Int) : Failure → Failure
  | .violation v => match v.kind with
    | .unique => .ledger (.orderExists order)
    | .foreignKey => .ledger (.accountNotFound account)
    | _ => .violation v
  | e => e

def insert (id account service amount : Int) : LedgerWork OrderRow := do
  let now ← Work.instant
  Act.recast (recastInsertion id account) <|
    LedgerWork.ask "insert order" (OrderRows.insert id account service amount now)

def get (id : Int) : LedgerWork OrderRow := do
  match ← LedgerWork.ask "get order by id" (OrderRows.find id) with
  | some order => return order
  | none => LedgerWork.fail (.orderNotFound id)

def endingName : Ending → String
  | .paid => "pay for order"
  | .cancelled => "cancel order"

def finish (ending : Ending) (id account service amount : Int) : LedgerWork OrderRow := do
  let now ← Work.instant
  match ← LedgerWork.ask (endingName ending) (OrderRows.finish ending now id account service amount) with
  | some order => return order
  | none => LedgerWork.fail (.orderNotFound id)

private def source : String := "payment_ledger.orders"

private def resource (id : Int) : String := s!"order:{id}"

/-- Reserves funds and opens a pending order; answers with it and the balance that remains. -/
def create (id account service amount : Int) : Operation (OrderRow × Int) where
  check := checkPositive "Order amount" amount
  body := do
    let balance ← Accounts.reserve account amount
    let order ← insert id account service amount
    let _ ← History.append .reservation account account amount (some s!"Reserve {amount} kopecks for order with id = {id}")
    return (order, balance)
  report answer := Work.record Level.info source "Order created"
    (.ofAction "create_order" (resource id) (some (.object [
      ("account_id", .int account), ("service_id", .int service), ("amount", .int amount), ("balance", .int answer.2)])))

/-- Settles a pending order. No money moves: it left the balance when the order was created. -/
def pay (id account service amount : Int) : Operation OrderRow where
  body := finish .paid id account service amount
  report _ := Work.record Level.info source "Order paid"
    (.ofAction "pay_order" (resource id)
      (some (.object [("account_id", .int account), ("service_id", .int service), ("amount", .int amount)])))

/-- Cancels a pending order, returns its reservation and answers with the balance. -/
def cancel (id account service amount : Int) : Operation Int where
  body := do
    let order ← finish .cancelled id account service amount
    let owner := order.account.whole
    let held := order.amount.whole
    let balance ← Accounts.giveBack owner held
    let _ ← History.append .cancelReservation owner owner held
      (some s!"Cancel reservation {held} kopecks for order with orderID = {id}")
    return balance
  report balance := Work.record Level.info source "Order cancelled"
    (.ofAction "cancel_order" (resource id)
      (some (.object [("account_id", .int account), ("amount", .int amount), ("balance", .int balance)])))

def lookup (id : Int) : Operation OrderRow where
  body := get id

end Passbook.Orders
