import Passbook.Store.LogRows
/-! Statements given directly, without the checks of the ledger. -/
namespace Passbook
open AccountRows Time

inductive Direct where
  | insertAccount (id balance : Argument)
  | insertOrder (columns : OrderRows.Columns) (time : Instant)
  | setFlags (paid cancelled order : Argument)
  | setAmounts (amount : Argument)
  | deleteEntries
  /-- Reads a table that is not part of any schema. -/
  | readMissing
  | echo (value : Argument)
  | deferReferences

inductive Direct.Effect where
  | changed (rows : Nat)
  | read (value : Cell)
  | none

namespace Direct

private def effect {α : Type} (read : α → Effect) (query : Query α) : Query Effect := fun deferred t => do
  let (a, t) ← query deferred t
  return (read a, t)

private def one : Unit → Effect := fun _ => .changed 1

def missingTable : String := "missing_table"

def query : Direct → Query Effect
  | .insertAccount id balance => effect one (AccountRows.insertCells id balance)
  | .insertOrder columns time => effect one (OrderRows.insertColumns columns time)
  | .setFlags paid cancelled order => effect .changed (OrderRows.setFlags paid cancelled order)
  | .setAmounts amount => effect .changed (LogRows.setAmounts amount)
  | .deleteEntries => effect .changed LogRows.deleteAll
  | .readMissing => fun _ _ => .error (.missingTable missingTable)
  | .echo value => fun _ t => do return (.read ((← Argument.bindAll [value]).headD .null), t)
  | .deferReferences => fun _ t => .ok (.none, t)

end Direct
end Passbook
