import Passbook.History
/-! Accounts: every change of a balance is one statement that checks what it changes, and every complete operation pairs it
with its entry in the transaction log. -/
namespace Passbook.Accounts
open Journal

def recastBalance (account amount : Int) : Failure → Failure
  | .violation v =>
    if v.kind = .outOfRange ∨ v.constraint = some "accounts_balance_integer" then .ledger (.balanceOverflow account amount)
    else if v.kind = .check then .ledger (.insufficientFunds account amount)
    else .violation v
  | e => e

def recastCreation (account : Int) : Failure → Failure
  | .violation v => if v.kind = .unique then .ledger (.accountExists account) else .violation v
  | e => e

def get (id : Int) : LedgerWork Account := do
  match ← LedgerWork.ask "get account by id" (AccountRows.find id) with
  | some account => return account
  | none => LedgerWork.fail (.accountNotFound id)

def create (id : Int) : LedgerWork Account :=
  Act.recast (recastCreation id) (LedgerWork.ask "create account" (AccountRows.insert id))

def adjust (operation : String) (id amount delta : Int) : LedgerWork Int := do
  let balance ← Act.recast (recastBalance id amount)
    (LedgerWork.ask operation (AccountRows.adjust amount delta id))
  match balance with
  | some balance => return balance
  | none => LedgerWork.fail (.accountNotFound id)

def addBalance (id amount : Int) : LedgerWork Int := adjust "add balance" id amount amount

def subtractBalance (id amount : Int) : LedgerWork Int := adjust "subtract balance" id amount (-amount)

def balance (id : Int) : Operation Int where
  body := do return (← get id).balance

private def source : String := "payment_ledger.accounts"

private def resource (id : Int) : String := s!"account:{id}"

def open? (id : Int) : LedgerWork Unit := do
  try
    let _ ← get id
  catch
    | .ledger (.accountNotFound _) => do
      let _ ← create id
      Work.record Level.info source "Account opened by first credit" (.ofAction "create_account" (resource id) none)
    | e => throw e

def checkCredit (amount : Int) : Except LedgerError Unit := do
  if amount < 0 then throw (.invalidAmount amount "Credit amount must not be negative")
  checkRange amount

/-- Adds funds to an account and opens it on its first credit. -/
def credit (id amount : Int) : Operation Int where
  check := checkCredit amount
  body := do
    open? id
    let balance ← addBalance id amount
    let _ ← History.append .enrollment id id amount (some s!"Add {amount} kopecks to account with id = {id}")
    return balance
  report balance := Work.record Level.info source "Account credited"
    (.ofAction "credit" (resource id) (some (.object [("amount", .int amount), ("balance", .int balance)])))

/-- An id takes its place in a message whatever the number of its digits, which a runtime may limit. -/
def checkTransfer (sender receiver amount : Int) : Except LedgerError Unit := do
  checkPositive "Transfer amount" amount
  if sender = receiver then throw (.selfTransfer sender)

/-- Moves funds between two accounts, the one with the smaller id first, and answers with both balances. -/
def transfer (sender receiver amount : Int) : Operation (Int × Int) where
  check := checkTransfer sender receiver amount
  body := do
    let balances ← if sender < receiver then do
        let sent ← subtractBalance sender amount
        let received ← addBalance receiver amount
        pure (sent, received)
      else do
        let received ← addBalance receiver amount
        let sent ← subtractBalance sender amount
        pure (sent, received)
    let _ ← History.append .transfer sender receiver amount
      (some s!"Transfer {amount} kopecks from account with id = {sender} to account with id = {receiver}")
    return balances
  report balances := Work.record Level.info source "Funds transferred"
    (.ofAction "transfer" (resource sender) (some (.object [
      ("sender_id", .int sender), ("receiver_id", .int receiver), ("amount", .int amount),
      ("sender_balance", .int balances.1), ("receiver_balance", .int balances.2)])))

/-- Holds funds inside the caller's unit; the caller writes the entry. -/
def reserve (id amount : Int) : LedgerWork Int := do
  LedgerWork.check (checkPositive "Reserved amount" amount)
  subtractBalance id amount

def giveBack (id amount : Int) : LedgerWork Int := do
  LedgerWork.check (checkPositive "Returned amount" amount)
  addBalance id amount

end Passbook.Accounts
