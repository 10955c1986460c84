import Passbook.Orders
import Passbook.Remote.Session
import Passbook.Time.Reader
/-! The ledger's own statements on a database server: what is sent, how the rows that come back are read, and how refusals
are reported. -/
namespace Passbook.Remote
open Time

def column (name : String) (row : Row) : Talk Json :=
  match row.find? fun pair => pair.1 == name with
  | some pair => return pair.2
  | none => throw (.missingColumn name)

def first (result : Result) : Talk Row :=
  match result.rows with
  | row :: _ => return row
  | [] => throw .missingRow

/-- Truth values may be written as numbers or text. -/
def truth (name : String) (row : Row) : Talk Bool := Json.isFilled <$> column name row

def time (name : String) (row : Row) : Talk Instant := do
  match ← column name row with
  | .string text => Act.ofExcept ((Reading.ofText text >>= Reading.instant).mapError .time)
  | value => throw (.timeless value.kind)

/-- An account as a row tells it: values of columns are taken as they come. -/
structure ServedAccount where
  id : Json
  balance : Json

structure ServedOrder where
  id : Json
  account : Json
  service : Json
  amount : Json
  isPaid : Bool
  isCancelled : Bool
  createdAt : Instant
  updatedAt : Instant

/-- A log entry as it was sent, with the id and the time that came back. -/
structure ServedEntry where
  id : Json
  kind : EntryKind
  sender : Int
  receiver : Int
  amount : Int
  description : Option String
  createdAt : Instant

def ServedEntry.signedAmount (e : ServedEntry) : Int := if e.kind.isDebit then -e.amount else e.amount

def accountOf (row : Row) : Talk ServedAccount := do
  return ⟨← column "id" row, ← column "balance" row⟩

def getAccount (id : Int) : Talk ServedAccount := do
  let result ← Talk.execute "get account by id" .findAccount [.int id]
  match result.rows with
  | row :: _ => accountOf row
  | [] => throw (.ledger (.accountNotFound id))

def createAccount (id : Int) : Talk ServedAccount := do
  let result ← Act.recast (Accounts.recastCreation id) (Talk.execute "create account" .insertAccount [.int id])
  accountOf (← first result)

def adjust (operation : String) (wording : Wording) (id amount : Int) : Talk Json := do
  let result ← Act.recast (Accounts.recastBalance id amount) (Talk.execute operation wording [.int amount, .int id])
  match result.rows with
  | row :: _ => column "balance" row
  | [] => throw (.ledger (.accountNotFound id))

def addBalance (id amount : Int) : Talk Json := adjust "add balance" .addToBalance id amount

def subtractBalance (id amount : Int) : Talk Json := adjust "subtract balance" .takeFromBalance id amount

def insertOrder (now : Reading) (id account service amount : Int) : Talk ServedOrder := do
  let result ← Act.recast (Orders.recastInsertion id account) <|
    Talk.execute "insert order" .insertOrder [.int id, .int account, .int service, .int amount, .bool false, .bool false,
      .string now.text, .string now.text]
  let row ← first result
  return ⟨← column "order_id" row, ← column "account_id" row, ← column "service_id" row, ← column "amount" row,
    ← truth "is_paid" row, ← truth "is_cancelled" row, ← time "created_at" row, ← time "updated_at" row⟩

def append (now : Reading) (kind : EntryKind) (sender receiver amount : Int) (description : Option String) :
    Talk ServedEntry := do
  let result ← Act.recast (History.recastRefusal sender receiver) <|
    Talk.execute "append transaction" .appendEntry [.string kind.name, .int sender, .int receiver, .int amount,
      .ofOption .string description, .string now.text]
  let row ← first result
  return ⟨← column "id" row, kind, sender, receiver, amount, description, ← time "created_at" row⟩

def placed (sql : String) : String :=
  String.ofList (sql.toList.flatMap fun c => if c = '?' then ['%', 's'] else [c])

inductive Call where
  | execute (operation sql : String) (values : List Json)
  | getAccount (account : Int)
  | createAccount (account : Int)
  | addBalance (account amount : Int)
  | subtractBalance (account amount : Int)
  | insertOrder (order account service amount : Int)
  | append (kind : String) (sender receiver amount : Int) (description : Option String)
  | abort (message : String)

/-- Whether a call sends a statement; the others fail at once. -/
def Call.sendsStatement : Call → Bool
  | .abort _ => false
  | .append kind _ _ _ _ => (EntryKind.ofName? kind).isSome
  | _ => true

inductive Answer where
  | result (result : Result)
  | balance (amount : Json)
  | account (account : ServedAccount)
  | order (order : ServedOrder)
  | entry (entry : ServedEntry)

def Call.run (now : Reading) : Call → Talk Answer
  | .execute operation sql values => .result <$> Talk.execute operation (.text (placed sql)) values
  | .getAccount account => .account <$> Remote.getAccount account
  | .createAccount account => .account <$> Remote.createAccount account
  | .addBalance account amount => .balance <$> Remote.addBalance account amount
  | .subtractBalance account amount => .balance <$> Remote.subtractBalance account amount
  | .insertOrder order account service amount => .order <$> Remote.insertOrder now order account service amount
  | .append kind sender receiver amount description =>
    match EntryKind.ofName? kind with
    | some kind => .entry <$> Remote.append now kind sender receiver amount description
    | none => throw (.notAmong kind EntryKind.setName)
  | .abort message => throw (.aborted message)

/-- Runs calls one after the other; a failure that is not caught ends them. -/
def runAll (now : Reading) : List (Call × Bool) → Talk (List (Except Failure Answer))
  | [] => return []
  | (call, isCaught) :: calls => do
    match ← (call.run now).outcome, isCaught with
    | .error e, false => throw e
    | outcome, _ => return outcome :: (← runAll now calls)

def scripted (lease commit : Except Failure Result) (replies : List (Except Failure Result)) : Server := fun commands =>
  let done : Except Failure Result := .ok ⟨[], -1⟩
  match commands.getLast? with
  | some .lease => lease
  | some .commit => commit
  | some (.execute _ _) =>
    let isExecute : Command → Bool
      | .execute _ _ => true
      | _ => false
    (replies[commands.countP isExecute - 1]?).getD done
  | _ => done

end Passbook.Remote
