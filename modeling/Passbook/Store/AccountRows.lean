import Passbook.Store.Argument
import Passbook.Store.Catalog
import Passbook.Store.Tables
/-! Statements on the accounts table. A missing table is noticed before anything else, then integers that cannot be bound;
of the rules of a row the balance's sign comes first, then its being an integer, then the uniqueness of the id. -/
namespace Passbook.AccountRows

abbrev Query (α : Type) := Statement Tables α

def accountsOf (t : Tables) : Except Refusal (List Account) :=
  match t.accounts with
  | some rows => .ok rows
  | none => .error (.missingTable "accounts")

def bindAll (values : List Int) : Except Refusal Unit :=
  if values.all fitsInteger then .ok () else .error .oversizedInteger

def find (id : Int) : Query (Option Account) := fun _ t => do
  let rows ← accountsOf t
  bindAll [id]
  return (Rows.find? Account.id id rows, t)

def put (rows : List Account) (account : Account) (t : Tables) : Except Refusal (Account × Tables) :=
  if Rows.contains Account.id account.id rows then .error (.violated (.unique "accounts.id"))
  else .ok (account, { t with accounts := some (Rows.insert Account.id account rows) })

def insert (id : Int) : Query Account := fun _ t => do
  let rows ← accountsOf t
  bindAll [id]
  put rows ⟨id, 0⟩ t

/-- Adds `delta` to a balance; the amount bound to the statement is given apart, since it may be a debit. -/
def adjust (amount delta id : Int) : Query (Option Int) := fun _ t => do
  let rows ← accountsOf t
  bindAll [amount, id]
  match Rows.find? Account.id id rows with
  | none => return (none, t)
  | some account =>
    let balance := account.balance + delta
    if balance < 0 then throw (.violated (.check "accounts_balance_non_negative"))
    if maxInteger < balance then throw (.violated (.check "accounts_balance_integer"))
    return (some balance, { t with accounts := some (Rows.update Account.id id (fun a => { a with balance }) rows) })

/-- Beside a row with the id 2^63 - 1 this is 2^63, where a table would draw a free id at random. -/
private def freshId (rows : List Account) : Int := ((rows.getLast?.map Account.id).getD 0) + 1

/-- Adds a row of arbitrary cells; an absent id is the one after the largest. -/
def insertCells (id balance : Argument) : Query Unit := fun _ t => do
  let rows ← accountsOf t
  let cells ← Argument.bindAll [id, balance]
  let column (i : Nat) : Cell := (cells[i]?.getD .null).integral
  let id ← match column 0 with
    | .null => pure (freshId rows)
    | .int n => pure n
    | _ => throw (.violated .datatype)
  match column 1 with
  | .null => throw (.violated (.notNull "accounts.balance"))
  | cell =>
    if (cell.compare (.int 0)).isLT then throw (.violated (.check "accounts_balance_non_negative"))
    match cell with
    | .int balance =>
      let (_, t) ← put rows ⟨id, balance⟩ t
      return ((), t)
    | _ => throw (.violated (.check "accounts_balance_integer"))

end Passbook.AccountRows
