import Passbook.Json.Filled
import Passbook.LedgerError
/-! Errors of the ledger as they are told to others: with a message and the values the error keeps. One is told of what the
ledger refuses, or of any values given by hand. -/
namespace Passbook

structure Notice where
  kind : ErrorKind
  message : Json
  /-- What the error keeps, by name. -/
  fields : List (String × Json)

inductive NoticeFault where
  | unknownKind (name : String)
  | missing (teller : String) (names : List String)
  | tooMany (teller : String) (least most given : Nat)
  /-- A month that is no number, and whether its kind has another written form. -/
  | unnumbered (kind : String) (hasForm : Bool)
deriving DecidableEq, Repr

namespace NoticeFault

/-- An error counts as the first of its own values. -/
def message : NoticeFault → String
  | .unknownKind name => "module 'payment_ledger.exceptions' has no attribute '" ++ name ++ "'"
  | .missing teller names =>
    let count := toString names.length ++ (if names.length = 1 then " required positional argument: " else
      " required positional arguments: ")
    teller ++ ".__init__() missing " ++ count ++ " and ".intercalate (names.map fun name => "'" ++ name ++ "'")
  | .tooMany teller least most given =>
    let range := if least = most then toString (most + 1) else s!"from {least + 1} to {most + 1}"
    teller ++ ".__init__() takes " ++ range ++ s!" positional arguments but {given + 1} were given"
  | .unnumbered kind true => s!"Unknown format code 'd' for object of type '{kind}'"
  | .unnumbered kind false => s!"unsupported format string passed to {kind}.__format__"

end NoticeFault

namespace Notice

/-- The fields of an error: its values but for the message. A missing owner of a log entry has no account of its own. -/
def fieldsOf (kind : ErrorKind) (values : List Json) : List (String × Json) :=
  (if kind = .entryAccountNotFound then [("account_id", .null)] else [])
    ++ (kind.parts.zip values).filter fun pair => pair.1 ≠ "message"

private def monthText : Json → Except NoticeFault String
  | .int n => .ok (Text.padded 2 n)
  | .bool b => .ok (Text.padded 2 (if b then 1 else 0))
  | .float _ => .error (.unnumbered "float" true)
  | .string _ => .error (.unnumbered "str" true)
  | value => .error (.unnumbered value.kind false)

private def wording (kind : ErrorKind) (first second : Json) : Except NoticeFault Json :=
  let a := first.plain
  let b := second.plain
  match kind with
  | .accountNotFound => return match second, first with
    | .null, .null => .string "Account not found"
    | .null, _ => .string s!"Account {a} not found"
    | message, _ => message
  | .accountExists => return .string s!"Account {a} already exists"
  | .insufficientFunds => return .string s!"Account {a} has insufficient funds for {b}"
  | .balanceOverflow => return .string s!"Account {a} balance would overflow when adding {b}"
  | .selfTransfer => return .string s!"Cannot transfer from account {a} to itself"
  | .orderNotFound => return .string s!"Order {a} not found"
  | .orderExists => return .string s!"Order {a} already exists"
  | .entryAccountNotFound => return .string s!"Transaction references unknown account (sender={a}, receiver={b})"
  | .reportNotFound => return .string s!"Report {a} not found"
  | .reportNotAvailable => return .string (s!"Report for {a}-" ++ (← monthText second) ++ " is not available yet")
  | .storage => return .string (a ++ ": " ++ b)
  | .invalidAmount => return second
  | .ledger | .account | .order | .entryRefused | .entryExists | .report | .invalidListing => return first

def ofParts (kind : ErrorKind) (values : List Json) : Except NoticeFault Notice := do
  let least := if kind.mayOmitParts then 0 else kind.parts.length
  if kind.parts.length < values.length then throw (.tooMany kind.teller.name least kind.parts.length values.length)
  if values.length < least then throw (.missing kind.teller.name (kind.parts.drop values.length))
  let value (i : Nat) : Json := (values[i]?).getD .null
  let message ← wording kind (value 0) (value 1)
  return ⟨kind, message, fieldsOf kind (kind.parts.zipIdx.map fun part => value part.2)⟩

def ofName (name : String) (values : List Json) : Except NoticeFault Notice :=
  match ErrorKind.ofName? name with
  | some kind => ofParts kind values
  | none => .error (.unknownKind name)

end Notice

def LedgerError.values : LedgerError → List Json
  | .accountNotFound account | .accountExists account | .selfTransfer account => [.int account]
  | .insufficientFunds account amount | .balanceOverflow account amount => [.int account, .int amount]
  | .orderNotFound order | .orderExists order => [.int order]
  | .entryRefused message | .entryExists message | .invalidListing message => [.string message]
  | .entryAccountNotFound sender receiver => [.int sender, .int receiver]
  | .reportNotFound key => [.string key]
  | .reportNotAvailable year month => [.int year, .int month]
  | .storage operation message => [.string operation, .string message]
  | .invalidAmount amount message => [.int amount, .string message]

def LedgerError.notice (e : LedgerError) : Notice := ⟨e.kind, .string e.message, Notice.fieldsOf e.kind e.values⟩

end Passbook
