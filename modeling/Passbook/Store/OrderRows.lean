import Passbook.Store.AccountRows
/-! Statements on the orders table. The rules of a row are checked in this order: required columns, a positive amount, at
most one terminal state, the uniqueness of the id, and the existence of the account. -/
namespace Passbook.OrderRows
open AccountRows Time

abbrev OrderRow := Order Instant

def ordersOf (t : Tables) : Except Refusal (List OrderRow) :=
  match t.orders with
  | some rows => .ok rows
  | none => .error (.missingTable "orders")

/-- Rows that refer to accounts can be added only while there is an accounts table. -/
def requireAccounts (t : Tables) : Except Refusal Unit :=
  match t.accounts with
  | some _ => .ok ()
  | none => .error (.missingTable "main.accounts")

def checkRow (order : OrderRow) : Except Refusal Unit := do
  if !(order.amount.compare (.int 0)).isGT then throw (.violated (.check "orders_amount_positive"))
  if order.paid.isTrue && order.cancelled.isTrue then throw (.violated (.check "orders_single_terminal_state"))

def put (rows : List OrderRow) (order : OrderRow) : Statement Tables OrderRow := fun deferred t => do
  checkRow order
  if Rows.contains Order.id order.id rows then throw (.violated (.unique "orders.order_id"))
  if !deferred && !t.hasOwner order.account then throw (.violated .foreignKey)
  return (order, { t with orders := some (Rows.insert Order.id order rows) })

def insert (id account service amount : Int) (time : Instant) : Query OrderRow := fun deferred t => do
  let rows ← ordersOf t
  requireAccounts t
  AccountRows.bindAll [id, account, service, amount]
  put rows (.opened id account service amount time) deferred t

structure Columns where
  id : Argument
  account : Argument
  service : Argument
  amount : Argument
  paid : Argument
  cancelled : Argument

def required (column : String) : Cell → Except Refusal Cell
  | .null => .error (.violated (.notNull ("orders." ++ column)))
  | cell => .ok cell

def insertColumns (columns : Columns) (time : Instant) : Query Unit := fun deferred t => do
  let rows ← ordersOf t
  requireAccounts t
  let cells ← Argument.bindAll
    [columns.id, columns.account, columns.service, columns.amount, columns.paid, columns.cancelled]
  let column (i : Nat) : Cell := (cells[i]?.getD .null).integral
  let id ← match column 0 with
    | .null => pure (((rows.getLast?.map Order.id).getD 0) + 1)
    | .int n => pure n
    | _ => throw (.violated .datatype)
  let account ← required "account_id" (column 1)
  let service ← required "service_id" (column 2)
  let amount ← required "amount" (column 3)
  let paid ← required "is_paid" (column 4)
  let cancelled ← required "is_cancelled" (column 5)
  let (_, t) ← put rows ⟨id, account, service, amount, paid, cancelled, time, time⟩ deferred t
  return ((), t)

def find (id : Int) : Query (Option OrderRow) := fun _ t => do
  let rows ← ordersOf t
  bindAll [id]
  return (Rows.find? Order.id id rows, t)

inductive Ending where
  | paid
  | cancelled
deriving DecidableEq, Repr

def finished (ending : Ending) (time : Instant) (order : OrderRow) : OrderRow :=
  match ending with
  | .paid => { order with paid := .ofBool true, updatedAt := time }
  | .cancelled => { order with cancelled := .ofBool true, updatedAt := time }

def isPendingMatch (account service amount : Int) (order : OrderRow) : Bool :=
  order.account.agrees (.int account) && order.service.agrees (.int service) && order.amount.agrees (.int amount)
    && order.paid.agrees (.ofBool false) && order.cancelled.agrees (.ofBool false)

def finish (ending : Ending) (time : Instant) (id account service amount : Int) : Query (Option OrderRow) := fun _ t => do
  let rows ← ordersOf t
  AccountRows.bindAll [id, account, service, amount]
  match Rows.find? Order.id id rows with
  | none => return (none, t)
  | some order =>
    if isPendingMatch account service amount order then
      return (some (finished ending time order),
        { t with orders := some (Rows.update Order.id id (finished ending time) rows) })
    else return (none, t)

def setFlags (paid cancelled order : Argument) : Query Nat := fun _ t => do
  let rows ← ordersOf t
  let cells ← Argument.bindAll [paid, cancelled, order]
  let column (i : Nat) : Cell := (cells[i]?.getD .null).integral
  match column 2 with
  | .int id => match Rows.find? Order.id id rows with
    | none => return (0, t)
    | some row =>
      let paid ← required "is_paid" (column 0)
      let cancelled ← required "is_cancelled" (column 1)
      checkRow { row with paid, cancelled }
      return (1, { t with orders := some (Rows.update Order.id id (fun o => { o with paid, cancelled }) rows) })
  | _ => return (0, t)

/-- Times are compared as they are stored, stamp against stamp. -/
def isRevenue (first next : Instant) (order : OrderRow) : Bool :=
  order.paid.agrees (.ofBool true) && order.cancelled.agrees (.ofBool false)
    && decide (first.stamp ≤ order.createdAt.stamp) && decide (order.createdAt.stamp < next.stamp)

/-- A sum of cells. It is exact until something but an integer comes in, and spoilt once it leaves 64 bits. -/
structure Tally where
  exact : Int := 0
  real : Float := 0.0
  isExact : Bool := true
  isSpoilt : Bool := false

namespace Tally

def add (tally : Tally) : Cell → Tally
  | .int n =>
    let real := tally.real + Float.ofInt n
    if tally.isExact && !tally.isSpoilt then
      if fitsInteger (tally.exact + n) then { tally with exact := tally.exact + n, real }
      else { tally with isSpoilt := true, real }
    else { tally with real }
  | cell => { tally with real := tally.real + cell.number, isExact := false }

def total (tally : Tally) : Except Refusal Cell :=
  if tally.isSpoilt then .error .sumOverflow
  else .ok (if tally.isExact then .int tally.exact else .ofDefined tally.real)

end Tally

def addTally (service amount : Cell) : List (Cell × Tally) → List (Cell × Tally)
  | [] => [(service, Tally.add {} amount)]
  | (s, tally) :: rest => match service.compare s with
    | .eq => (s, tally.add amount) :: rest
    | .lt => (service, Tally.add {} amount) :: (s, tally) :: rest
    | .gt => (s, tally) :: addTally service amount rest

/-- The tallies of orders, which are added up in the order of their creation, those of one time by their ids. -/
def talliesByService (orders : List OrderRow) : List (Cell × Tally) :=
  (orders.mergeSort fun a b => decide (a.createdAt ≤ b.createdAt)).foldl
    (fun tallies o => addTally o.service o.amount tallies) []

/-- Totals of the paid orders created in a span of time, by service, as far as they are positive. -/
def paidTotals (first next : Instant) : Query (List (Cell × Cell)) := fun _ t => do
  let rows ← ordersOf t
  let totals ← (talliesByService (rows.filter (isRevenue first next))).mapM fun (service, tally) => do
    return (service, ← tally.total)
  return (totals.filter fun (_, total) => (total.compare (.int 0)).isGT, t)

end Passbook.OrderRows
