/-! The kinds of ledger errors: the name of each, the code a machine reads, the status it is answered with, and the wider kinds
it belongs to. -/
namespace Passbook

inductive ErrorKind where
  | ledger
  | account
  | accountNotFound
  | accountExists
  | insufficientFunds
  | balanceOverflow
  | selfTransfer
  | order
  | orderNotFound
  | orderExists
  | entryRefused
  | entryExists
  | entryAccountNotFound
  | report
  | reportNotFound
  | reportNotAvailable
  | storage
  | invalidAmount
  | invalidListing
deriving DecidableEq, Repr

namespace ErrorKind

def all : List ErrorKind := [
  .ledger, .account, .accountNotFound, .accountExists, .insufficientFunds, .balanceOverflow, .selfTransfer, .order,
  .orderNotFound, .orderExists, .entryRefused, .entryExists, .entryAccountNotFound, .report, .reportNotFound,
  .reportNotAvailable, .storage, .invalidAmount, .invalidListing]

def name : ErrorKind → String
  | .ledger => "PaymentLedgerError"
  | .account => "AccountError"
  | .accountNotFound => "AccountNotFoundError"
  | .accountExists => "AccountAlreadyExistsError"
  | .insufficientFunds => "InsufficientFundsError"
  | .balanceOverflow => "BalanceOverflowError"
  | .selfTransfer => "SelfTransferError"
  | .order => "OrderError"
  | .orderNotFound => "OrderNotFoundError"
  | .orderExists => "OrderAlreadyExistsError"
  | .entryRefused => "TransactionLogWriteError"
  | .entryExists => "TransactionAlreadyExistsError"
  | .entryAccountNotFound => "TransactionAccountNotFoundError"
  | .report => "ReportError"
  | .reportNotFound => "ReportNotFoundError"
  | .reportNotAvailable => "ReportNotAvailableError"
  | .storage => "StorageError"
  | .invalidAmount => "InvalidAmountError"
  | .invalidListing => "InvalidListParamsError"

def ofName? (name : String) : Option ErrorKind := all.find? fun k => k.name == name

def code : ErrorKind → String
  | .ledger => "PAYMENT_LEDGER_ERROR"
  | .account => "ACCOUNT_ERROR"
  | .accountNotFound => "ACCOUNT_NOT_FOUND"
  | .accountExists => "ACCOUNT_ALREADY_EXISTS"
  | .insufficientFunds => "INSUFFICIENT_FUNDS"
  | .balanceOverflow => "BALANCE_OVERFLOW"
  | .selfTransfer => "SELF_TRANSFER"
  | .order => "ORDER_ERROR"
  | .orderNotFound => "ORDER_NOT_FOUND"
  | .orderExists => "ORDER_ALREADY_EXISTS"
  | .entryRefused => "TRANSACTION_LOG_WRITE_FAILED"
  | .entryExists => "TRANSACTION_ALREADY_EXISTS"
  | .entryAccountNotFound => "TRANSACTION_ACCOUNT_NOT_FOUND"
  | .report => "REPORT_ERROR"
  | .reportNotFound => "REPORT_NOT_FOUND"
  | .reportNotAvailable => "REPORT_NOT_AVAILABLE"
  | .storage => "STORAGE_ERROR"
  | .invalidAmount => "INVALID_AMOUNT"
  | .invalidListing => "INVALID_LIST_PARAMS"

/-- The status an error is answered with; an error without one is internal. -/
def status? : ErrorKind → Option Nat
  | .accountNotFound | .entryAccountNotFound | .orderNotFound | .reportNotFound | .reportNotAvailable => some 404
  | .accountExists | .orderExists => some 409
  | .insufficientFunds | .balanceOverflow | .selfTransfer | .invalidAmount | .invalidListing => some 400
  | _ => none

/-- The wider kinds of a kind, the closest first; some errors are errors of a value too. -/
def above : ErrorKind → List String
  | .ledger => []
  | .accountNotFound | .accountExists | .insufficientFunds => [name .account, name .ledger]
  | .balanceOverflow | .selfTransfer => [name .account, name .ledger, "ValueError"]
  | .orderNotFound | .orderExists => [name .order, name .ledger]
  | .entryExists => [name .entryRefused, name .ledger]
  | .entryAccountNotFound => [name .entryRefused, name .accountNotFound, name .account, name .ledger]
  | .reportNotFound | .reportNotAvailable => [name .report, name .ledger]
  | .invalidAmount | .invalidListing => [name .ledger, "ValueError"]
  | .account | .order | .report | .entryRefused | .storage => [name .ledger]

def parts : ErrorKind → List String
  | .accountNotFound => ["account_id", "message"]
  | .accountExists | .selfTransfer => ["account_id"]
  | .insufficientFunds | .balanceOverflow => ["account_id", "amount"]
  | .orderNotFound | .orderExists => ["order_id"]
  | .entryAccountNotFound => ["sender_id", "receiver_id"]
  | .reportNotFound => ["key"]
  | .reportNotAvailable => ["year", "month"]
  | .storage => ["operation", "message"]
  | .invalidAmount => ["amount", "message"]
  | .ledger | .account | .order | .entryRefused | .entryExists | .report | .invalidListing => ["message"]

def teller : ErrorKind → ErrorKind
  | .account | .order | .entryRefused | .entryExists | .report | .invalidListing => .ledger
  | kind => kind

def mayOmitParts : ErrorKind → Bool
  | .accountNotFound => true
  | _ => false

end ErrorKind
end Passbook
