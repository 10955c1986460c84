import Passbook.ErrorKind
import Passbook.Text.Padded
/-! What the ledger refuses, and why, with the text each refusal is reported by. -/
namespace Passbook

inductive LedgerError where
  | accountNotFound (account : Int)
  | accountExists (account : Int)
  | insufficientFunds (account amount : Int)
  | balanceOverflow (account amount : Int)
  | selfTransfer (account : Int)
  | orderNotFound (order : Int)
  | orderExists (order : Int)
  | entryRefused (message : String)
  | entryExists (message : String)
  | entryAccountNotFound (sender receiver : Int)
  | reportNotFound (key : String)
  | reportNotAvailable (year month : Int)
  | storage (operation message : String)
  | invalidAmount (amount : Int) (message : String)
  | invalidListing (message : String)
deriving DecidableEq, Repr

namespace LedgerError

def kind : LedgerError → ErrorKind
  | .accountNotFound _ => .accountNotFound
  | .accountExists _ => .accountExists
  | .insufficientFunds _ _ => .insufficientFunds
  | .balanceOverflow _ _ => .balanceOverflow
  | .selfTransfer _ => .selfTransfer
  | .orderNotFound _ => .orderNotFound
  | .orderExists _ => .orderExists
  | .entryRefused _ => .entryRefused
  | .entryExists _ => .entryExists
  | .entryAccountNotFound _ _ => .entryAccountNotFound
  | .reportNotFound _ => .reportNotFound
  | .reportNotAvailable _ _ => .reportNotAvailable
  | .storage _ _ => .storage
  | .invalidAmount _ _ => .invalidAmount
  | .invalidListing _ => .invalidListing

def message : LedgerError → String
  | .accountNotFound account => s!"Account {account} not found"
  | .accountExists account => s!"Account {account} already exists"
  | .insufficientFunds account amount => s!"Account {account} has insufficient funds for {amount}"
  | .balanceOverflow account amount => s!"Account {account} balance would overflow when adding {amount}"
  | .selfTransfer account => s!"Cannot transfer from account {account} to itself"
  | .orderNotFound order => s!"Order {order} not found"
  | .orderExists order => s!"Order {order} already exists"
  | .entryRefused message => message
  | .entryExists message => message
  | .entryAccountNotFound sender receiver =>
    s!"Transaction references unknown account (sender={sender}, receiver={receiver})"
  | .reportNotFound key => s!"Report {key} not found"
  | .reportNotAvailable year month => s!"Report for {year}-" ++ Text.padded 2 month ++ " is not available yet"
  | .storage operation message => operation ++ ": " ++ message
  | .invalidAmount _ message => message
  | .invalidListing message => message

def code (e : LedgerError) : String := e.kind.code

def status? (e : LedgerError) : Option Nat := e.kind.status?

end LedgerError
end Passbook
