import Passbook.Store.OrderRows
/-! Statements on the transaction log. Ids count up from the last one given out; while the log is guarded, any entry that a
statement would change or remove makes it fail.

Ids are not bounded here. A table refuses a new row once it has given out the id 2^63 - 1. -/
namespace Passbook.LogRows
open AccountRows OrderRows Time

def logOf (t : Tables) : Except Refusal Log :=
  match t.log with
  | some log => .ok log
  | none => .error (.missingTable "transactions")

structure Draft where
  kind : EntryKind
  sender : Int
  receiver : Int
  amount : Int
  description : Option String
  createdAt : Instant

def append (draft : Draft) : Query (Entry Instant) := fun deferred t => do
  let log ← logOf t
  requireAccounts t
  let _ ← Argument.bindAll ([draft.sender, draft.receiver, draft.amount].map Argument.ofInt
    ++ draft.description.toList.map Argument.ofText)
  let some description := draft.description | throw (.violated (.notNull "transactions.description"))
  if draft.amount < 0 then throw (.violated (.check "transactions_amount_non_negative"))
  if !deferred && !(t.hasAccount draft.sender && t.hasAccount draft.receiver) then throw (.violated .foreignKey)
  let entry : Entry Instant :=
    ⟨(log.lastId + 1 : Nat), draft.kind, draft.sender, draft.receiver, .int draft.amount, description, draft.createdAt⟩
  return (entry, { t with log := some { log with entries := log.entries ++ [entry], lastId := log.lastId + 1 } })

inductive SortField where
  | date
  | sum
deriving DecidableEq, Repr

inductive Direction where
  | ascending
  | descending
deriving DecidableEq, Repr

def compareBy (field : Option SortField) (a b : Entry Instant) : Ordering :=
  match field with
  | none => .eq
  | some .date => compare a.createdAt.micros b.createdAt.micros
  | some .sum => a.amount.compare b.amount

def notAfter (field : Option SortField) (a b : Entry Instant) : Bool :=
  ((compareBy field a b).then (compare a.id b.id)).isLE

/-- Entries in the order of a field, equal ones in the order of their ids, both in one direction. -/
def sorted (field : Option SortField) (direction : Direction) (entries : List (Entry Instant)) : List (Entry Instant) :=
  match direction with
  | .ascending => entries.mergeSort (notAfter field)
  | .descending => entries.mergeSort fun a b => notAfter field b a

def involves (account : Int) (e : Entry Instant) : Bool := e.sender == account || e.receiver == account

/-- A stretch of the sorted entries: a negative limit is none, a negative offset is zero. -/
def stretch {α : Type} (limit offset : Int) (items : List α) : List α :=
  let rest := items.drop offset.toNat
  if limit < 0 then rest else rest.take limit.toNat

def page (account : Int) (field : Option SortField) (direction : Direction) (limit? offset? : Option Int) :
    Query (List (Entry Instant)) := fun _ t => do
  let log ← logOf t
  bindAll (account :: limit?.toList ++ offset?.toList)
  let (some limit, some offset) := (limit?, offset?) | throw (.violated .datatype)
  return (stretch limit offset (sorted field direction (log.entries.filter (involves account))), t)

def count (account : Int) : Query Nat := fun _ t => do
  let log ← logOf t
  bindAll [account]
  return ((log.entries.filter (involves account)).length, t)

private def amountColumn (cell : Cell) : Except Refusal Cell :=
  match cell with
  | .null => .error (.violated (.notNull "transactions.amount"))
  | cell => if (cell.compare (.int 0)).isLT then .error (.violated (.check "transactions_amount_non_negative")) else .ok cell

def setAmounts (amount : Argument) : Query Nat := fun _ t => do
  let log ← logOf t
  let cells ← Argument.bindAll [amount]
  if log.entries.isEmpty then return (0, t)
  if log.refusesUpdate then throw (.violated .appendOnly)
  let amount ← amountColumn (cells.headD .null).integral
  return (log.entries.length, { t with log := some { log with entries := log.entries.map fun e => { e with amount } } })

def deleteAll : Query Nat := fun _ t => do
  let log ← logOf t
  requireAccounts t
  if log.entries.isEmpty then return (0, t)
  if log.refusesDelete then throw (.violated .appendOnly)
  return (log.entries.length, { t with log := some { log with entries := [] } })

end Passbook.LogRows
