import Passbook.Store.Cell
import Passbook.Store.Rows
import Passbook.Store.Session
/-! The tables of the ledger: accounts, orders and the transaction log. A table may be missing, as the schema is
built in steps. -/
namespace Passbook
open Time

structure Account where
  id : Int
  balance : Int
deriving DecidableEq, Repr

/-- The four kinds of events that affect a balance. -/
inductive EntryKind where
  | enrollment
  | transfer
  | reservation
  | cancelReservation
deriving DecidableEq, Repr

namespace EntryKind

def name : EntryKind → String
  | .enrollment => "enrollment"
  | .transfer => "transfer"
  | .reservation => "reservation"
  | .cancelReservation => "cancel_reservation"

def all : List EntryKind := [.enrollment, .transfer, .reservation, .cancelReservation]

def ofName? (name : String) : Option EntryKind := all.find? fun k => k.name == name

def setName : String := "TransactionType"

end EntryKind

/-- One entry of the transaction log. The amount is the size of the movement, never its sign. -/
structure Entry (τ : Type) where
  id : Int
  kind : EntryKind
  sender : Int
  receiver : Int
  amount : Cell
  description : String
  createdAt : τ
deriving DecidableEq, Repr

/-- Whether an entry of this kind takes its amount from its sender's balance. -/
def EntryKind.isDebit : EntryKind → Bool
  | .enrollment | .cancelReservation => false
  | .transfer | .reservation => true

def Entry.signedAmount? {τ : Type} (e : Entry τ) : Option Cell := if e.kind.isDebit then e.amount.negated? else some e.amount

inductive OrderState where
  | pending
  | paid
  | cancelled
deriving DecidableEq, Repr

def OrderState.name : OrderState → String
  | .pending => "pending"
  | .paid => "paid"
  | .cancelled => "cancelled"

def OrderState.ofFlags (isPaid isCancelled : Bool) : OrderState :=
  if isPaid then .paid else if isCancelled then .cancelled else .pending

/-- A reservation of funds for one service. -/
structure Order (τ : Type) where
  id : Int
  account : Cell
  service : Cell
  amount : Cell
  paid : Cell
  cancelled : Cell
  createdAt : τ
  updatedAt : τ
deriving DecidableEq, Repr

def Order.opened {τ : Type} (id account service amount : Int) (time : τ) : Order τ :=
  ⟨id, .int account, .int service, .int amount, .ofBool false, .ofBool false, time, time⟩

def Order.isPaid {τ : Type} (o : Order τ) : Bool := o.paid.isFilled

def Order.isCancelled {τ : Type} (o : Order τ) : Bool := o.cancelled.isFilled

def Order.state {τ : Type} (o : Order τ) : OrderState := .ofFlags o.isPaid o.isCancelled

def Order.isPending {τ : Type} (o : Order τ) : Bool := o.state == .pending

/-- The table of log entries in order of id, the last id given out, and the guards that make it append-only. -/
structure Log where
  entries : List (Entry Instant)
  lastId : Nat
  refusesUpdate : Bool
  refusesDelete : Bool
deriving DecidableEq, Repr

def Log.empty : Log := ⟨[], 0, false, false⟩

structure Tables where
  accounts : Option (List Account)
  orders : Option (List (Order Instant))
  log : Option Log
deriving DecidableEq, Repr

namespace Tables

def empty : Tables := ⟨none, none, none⟩

def hasAccount (t : Tables) (id : Int) : Bool := Rows.contains Account.id id (t.accounts.getD [])

def hasOwner (t : Tables) : Cell → Bool
  | .int id => t.hasAccount id
  | _ => false

def referenced (t : Tables) : List Cell :=
  (t.orders.getD []).map Order.account
    ++ ((t.log.map Log.entries).getD []).flatMap fun e => [.int e.sender, .int e.receiver]

instance : Keyed Tables where
  orphaned t := t.referenced.any fun owner => !t.hasOwner owner

end Tables
end Passbook
