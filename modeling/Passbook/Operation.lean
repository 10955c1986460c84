import Passbook.Store.LogRows
/-! Ledger operations: arguments are checked first, then the work runs as a unit of its own or joined to its caller's, and a
record is written only when it has answered. -/
namespace Passbook
open AccountRows

abbrev Database := Catalog Tables

abbrev LedgerWork (α : Type) := Work Database α

def Database.empty : Database := { schema := Tables.empty, applied := [] }

namespace LedgerWork
variable {α : Type}

def ask (operation : String) (query : Query α) : LedgerWork α := Work.execute operation query.onSchema

def fail (error : LedgerError) : LedgerWork α := throw (.ledger error)

def check (outcome : Except LedgerError Unit) : LedgerWork Unit := Act.ofExcept (outcome.mapError .ledger)

end LedgerWork

structure Operation (α : Type) where
  check : Except LedgerError Unit := .ok ()
  body : LedgerWork α
  report : α → LedgerWork Unit := fun _ => pure ()

namespace Operation
variable {α : Type}

def within (op : Operation α) (body : LedgerWork α) : LedgerWork α := do
  LedgerWork.check op.check
  let a ← body
  op.report a
  return a

def alone (op : Operation α) : LedgerWork α := op.within (Work.inUnit op.body)

def joined (op : Operation α) : LedgerWork α := op.within op.body

end Operation

/-- Amounts are limited to what a balance can hold. -/
def checkRange (amount : Int) : Except LedgerError Unit :=
  if maxInteger < amount then .error (.invalidAmount amount s!"Amount must not exceed {maxInteger}") else .ok ()

def checkPositive (what : String) (amount : Int) : Except LedgerError Unit := do
  if amount ≤ 0 then throw (.invalidAmount amount (what ++ " must be positive"))
  checkRange amount

end Passbook
