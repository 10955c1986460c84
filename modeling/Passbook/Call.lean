import Passbook.Orders
import Passbook.Report
import Passbook.Store.Direct
/-! The calls a ledger takes, as data. A call runs in its caller's session or opens one of its own. -/
namespace Passbook
open LogRows OrderRows Time

inductive Call where
  | credit (account amount : Int)
  | transfer (sender receiver amount : Int)
  | balance (account : Int)
  | reserve (account amount : Int)
  | giveBack (account amount : Int)
  | getAccount (account : Int)
  | createAccount (account : Int)
  | addBalance (account amount : Int)
  | subtractBalance (account amount : Int)
  | createOrder (order account service amount : Int)
  | payOrder (order account service amount : Int)
  | cancelOrder (order account service amount : Int)
  | getOrder (order : Int)
  | insertOrder (order account service amount : Int)
  | finishOrder (ending : Ending) (order account service amount : Int)
  | append (kind : String) (sender receiver amount : Int) (description : Option String)
  | list (account : Int) (listing : History.Listing)
  /-- A listing in the words of its reader. -/
  | browse (account : Int) (sort direction : Option String) (limit offset : Option Int)
  | paidAmounts (year month : Int)
  | direct (operation : String) (statement : Direct)

inductive Answer where
  | balance (amount : Int)
  | balances (sender receiver : Int)
  | account (account : Account)
  | order (order : OrderRow)
  | created (order : OrderRow) (balance : Int)
  | entry (entry : Entry Instant)
  | page (entries : List (Entry Instant)) (total : Nat)
  | totals (totals : Report.Totals)
  | effect (effect : Direct.Effect)

namespace Call

def operate {α : Type} (isJoined : Bool) (op : Operation α) (answer : α → Answer) : LedgerWork Answer :=
  answer <$> if isJoined then op.joined else op.alone

def session {α : Type} (isJoined : Bool) (body : LedgerWork α) (answer : α → Answer) : LedgerWork Answer :=
  answer <$> if isJoined then body else Work.inUnit body

def appendNamed (kind : String) (sender receiver amount : Int) (description : Option String) :
    LedgerWork (Entry Instant) :=
  match EntryKind.ofName? kind with
  | some kind => History.append kind sender receiver amount description
  | none => throw (.notAmong kind EntryKind.setName)

def runDirect (operation : String) (statement : Direct) : LedgerWork Direct.Effect := do
  match statement with
  | .deferReferences => Work.deferReferences
  | _ => pure ()
  LedgerWork.ask operation statement.query

def showList (isJoined : Bool) (account : Int) (listing : History.Listing) : LedgerWork Answer := do
  let op := History.list account listing
  let (entries, total) ← if isJoined then op.joined else op.alone
  entries.forM fun e => do let _ ← Act.ofExcept (History.signedAmount e)
  return .page entries total

def orderedTotals (year month : Int) : LedgerWork Report.Totals := do
  let totals ← Report.monthly year month
  Act.ofExcept (Report.checkOrder totals)
  return totals

/-- Runs the call: joined to an open session, or in one of its own. -/
def run (isJoined : Bool) : Call → LedgerWork Answer
  | .credit account amount => operate isJoined (Accounts.credit account amount) .balance
  | .transfer sender receiver amount => operate isJoined (Accounts.transfer sender receiver amount) fun (s, r) => .balances s r
  | .balance account => operate isJoined (Accounts.balance account) .balance
  | .reserve account amount => session isJoined (Accounts.reserve account amount) .balance
  | .giveBack account amount => session isJoined (Accounts.giveBack account amount) .balance
  | .getAccount account => session isJoined (Accounts.get account) .account
  | .createAccount account => session isJoined (Accounts.create account) .account
  | .addBalance account amount => session isJoined (Accounts.addBalance account amount) .balance
  | .subtractBalance account amount => session isJoined (Accounts.subtractBalance account amount) .balance
  | .createOrder order account service amount =>
    operate isJoined (Orders.create order account service amount) fun (order, rest) => .created order rest
  | .payOrder order account service amount => operate isJoined (Orders.pay order account service amount) .order
  | .cancelOrder order account service amount => operate isJoined (Orders.cancel order account service amount) .balance
  | .getOrder order => operate isJoined (Orders.lookup order) .order
  | .insertOrder order account service amount => session isJoined (Orders.insert order account service amount) .order
  | .finishOrder ending order account service amount =>
    session isJoined (Orders.finish ending order account service amount) .order
  | .append kind sender receiver amount description =>
    session isJoined (appendNamed kind sender receiver amount description) .entry
  | .list account listing => showList isJoined account listing
  | .browse account sort direction limit offset => do
    let listing ← Act.ofExcept ((History.Listing.ofRequest sort direction limit offset).mapError .ledger)
    showList isJoined account listing
  | .paidAmounts year month => session isJoined (orderedTotals year month) .totals
  | .direct operation statement => session isJoined (runDirect operation statement) .effect

end Call
end Passbook
