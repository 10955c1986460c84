import Passbook.Migration.Migrator
import Passbook.Migration.Schema
import Passbook.Migration.Script
/-! The calls a migrator takes, as data, and changes made to the record of applied migrations behind its back. -/
namespace Passbook
open Time

class Named (δ : Type) where
  tableNames : δ → List String

instance : Named Tables where
  tableNames t := [t.accounts.map fun _ => "accounts", t.orders.map fun _ => "orders",
    t.log.map fun _ => "transactions"].filterMap id

instance : Named Script.Tables := ⟨Script.Tables.names⟩

/-- Tables are hidden if their names start with that of the store, in any case, and go on. -/
private def isHidden (name : String) : Bool :=
  let own := "sqlite".toList
  own.length < name.length && own.isPrefixOf (Text.asciiLowercase name).toList

def tableNames {δ : Type} [Named δ] (schema : δ) : List String :=
  ((recordName :: Named.tableNames schema).filter (!isHidden ·)).mergeSort fun a b => decide (a ≤ b)

inductive MigrationStep where
  | up (target : Option Int)
  | down (target : Int)
  | version
  | pending (target : Option Int)
  | status
  | applied
  | validate
  | tables
  | setClock (now : Reading)
  | setChecksum (version : Int) (checksum : String)
  | forget (version : Int)
  | add (row : AppliedRow)

inductive MigrationAnswer where
  | done
  | migrations (list : List (Int × String))
  | version (number : Int)
  | status (status : MigrationStatus)
  | applied (rows : List Applied)
  | valid (truth : Bool)
  | tables (names : List String)
  | changed (rows : Nat)

namespace Migrator
variable {σ δ : Type} [Worded σ] [Runs σ δ] [Keyed δ] [Named δ]

def listed (migrations : List (Migration σ)) : MigrationAnswer :=
  .migrations (migrations.map fun m => (m.version, m.name))

def ended (m : Migrator σ) (progress : Progress σ) : Work (Catalog δ) (Except Failure MigrationAnswer × Migrator σ) :=
  return (match progress.failure with
    | some e => .error e
    | none => .ok (listed progress.completed), { m with planned := progress.planned })

def simple (m : Migrator σ) (work : Work (Catalog δ) MigrationAnswer) :
    Work (Catalog δ) (Except Failure MigrationAnswer × Migrator σ) := do
  return (← work.outcome, m)

def execute {α : Type} (operation : String) (statement : Statement (Catalog δ) α) : Work (Catalog δ) α :=
  Work.inUnit (Work.execute operation statement)

/-- Carries out one step; the migrator remembers when it last applied a migration. -/
def carryOut (m : Migrator σ) : MigrationStep → Work (Catalog δ) (Except Failure MigrationAnswer × Migrator σ)
  | .up target => do
    match ← (m.up target).outcome with
    | .ok progress => m.ended progress
    | .error e => return (.error e, m)
  | .down target => do
    match ← (m.down target).outcome with
    | .ok progress => m.ended progress
    | .error e => return (.error e, m)
  | .version => m.simple (.version <$> version)
  | .pending target => m.simple (listed <$> m.pending target)
  | .status => m.simple (.status <$> m.status)
  | .applied => m.simple (.applied <$> applied)
  | .validate => m.simple (.valid <$> m.validate)
  | .tables => m.simple (.tables <$> execute "execute" fun _ c => .ok (tableNames c.schema, c))
  | .setClock now => m.simple (Work.setClock now >>= fun _ => return .done)
  | .setChecksum version checksum =>
    m.simple (.changed <$> execute "tamper" (AppliedRows.setChecksum version checksum))
  | .forget version => m.simple (.changed <$> execute "forget" (AppliedRows.remove version))
  | .add row => m.simple ((fun _ => .changed 1) <$> execute "record" (AppliedRows.add row))

end Migrator
end Passbook
