import Passbook.Migration.Basic
import Passbook.Time.Reader
/-! Applying migrations and rolling them back, one unit of work each. A migration that fails leaves nothing behind, and those
before it in the same call stay done. -/
namespace Passbook
open Journal Time

/-- A migration and when this migrator last applied it. -/
structure Planned (σ : Type) where
  migration : Migration σ
  appliedAt : Option Reading := none

structure Migrator (σ : Type) where
  planned : List (Planned σ)

structure Applied where
  version : Int
  name : String
  checksum : String
  appliedAt : Instant
deriving DecidableEq, Repr

structure MigrationStatus where
  current : Int
  latest : Int
  applied : Nat
  pending : List (Int × String)
deriving DecidableEq, Repr

/-- How far a call came: the plan afterwards, the migrations it completed, and why it stopped if it did not end. -/
structure Progress (σ : Type) where
  planned : List (Planned σ)
  completed : List (Migration σ)
  failure : Option Failure

namespace Migrator
variable {σ δ : Type}

def ofList (migrations : List (Migration σ)) : Migrator σ :=
  ⟨(migrations.mergeSort fun a b => a.version ≤ b.version).map fun m => { migration := m }⟩

def migrations (m : Migrator σ) : List (Migration σ) := m.planned.map Planned.migration

def latest (m : Migrator σ) : Int := (m.migrations.map Migration.version).max?.getD 0

def tell (level : Level) (message : String) : Work (Catalog δ) Unit :=
  Work.record level "payment_ledger.migrations" message

variable [Keyed δ]

def prepare : Work (Catalog δ) Unit := Work.inUnit (Work.execute "create migration table" fun _ c => .ok ((), c))

def readRow (row : AppliedRow) : Except Failure Applied := do
  let appliedAt ← (Reading.ofText row.appliedAt >>= Reading.instant).mapError .time
  return ⟨row.version, row.name, row.checksum, appliedAt⟩

def applied : Work (Catalog δ) (List Applied) := do
  let rows ← Work.inUnit (Work.execute "load applied migrations" AppliedRows.all)
  Act.ofExcept (rows.mapM readRow)

def version : Work (Catalog δ) Int := do
  return ((← applied).getLast?.map Applied.version).getD 0

def isBetween (low high : Int) (m : Migration σ) : Bool := low < m.version && m.version ≤ high

def pending (m : Migrator σ) (target : Option Int) : Work (Catalog δ) (List (Migration σ)) := do
  let current ← version
  return m.migrations.filter (isBetween current (target.getD m.latest))

variable [Worded σ] [Runs σ δ]

def runAll (m : Migration σ) (statements : List σ) : Work (Catalog δ) Unit :=
  statements.forM fun s => Work.execute m.operation (Runs.run s)

def applyUnit (m : Migration σ) : Work (Catalog δ) Reading := Work.inUnit do
  runAll m m.up
  let now ← Work.clock
  let checksum ← Act.ofExcept (m.checksum.mapError .unencodable)
  Work.execute "record migration" (AppliedRows.add ⟨m.version, m.name, checksum, now.text⟩)
  return now

def rollbackUnit (m : Migration σ) (statements : List σ) : Work (Catalog δ) Unit := Work.inUnit do
  runAll m statements
  let _ ← Work.execute "remove migration record" (AppliedRows.remove m.version)

def apply (m : Migration σ) : Work (Catalog δ) Reading := do
  tell Level.info ("Applying " ++ m.label)
  match ← (applyUnit m).outcome with
  | .ok now =>
    tell Level.info ("Successfully applied " ++ m.label)
    return now
  | .error e =>
    tell Level.error ("Failed to apply " ++ m.label ++ ": " ++ e.message)
    throw (.migration .applying m.label e.store?)

def rollback (m : Migration σ) : Work (Catalog δ) Unit :=
  match m.down with
  | none | some [] => throw (.migration .noWayBack m.label none)
  | some statements => do
    tell Level.info ("Rolling back " ++ m.label)
    match ← (rollbackUnit m statements).outcome with
    | .ok () => tell Level.info ("Successfully rolled back " ++ m.label)
    | .error e =>
      tell Level.error ("Failed to rollback " ++ m.label ++ ": " ++ e.message)
      throw (.migration .rollingBack m.label e.store?)

/-- Does `act` for each chosen migration in turn and notes the time it gives; the first failure ends it. -/
def runEach (chosen : Migration σ → Bool) (act : Migration σ → Work (Catalog δ) (Option Reading)) :
    List (Planned σ) → Work (Catalog δ) (Progress σ)
  | [] => return ⟨[], [], none⟩
  | p :: rest => do
    if chosen p.migration then
      match ← (act p.migration).outcome with
      | .error e => return ⟨p :: rest, [], some e⟩
      | .ok appliedAt =>
        let after ← runEach chosen act rest
        return ⟨{ p with appliedAt } :: after.planned, p.migration :: after.completed, after.failure⟩
    else
      let after ← runEach chosen act rest
      return { after with planned := p :: after.planned }

/-- Applies the pending migrations up to a target version, all of them by default. -/
def up (m : Migrator σ) (target : Option Int) : Work (Catalog δ) (Progress σ) := do
  let current ← version
  let chosen := isBetween current (target.getD m.latest)
  let count := (m.migrations.filter chosen).length
  if count = 0 then
    tell Level.info "No pending migrations to apply"
    return ⟨m.planned, [], none⟩
  tell Level.info s!"Applying {count} pending migrations"
  let progress ← runEach chosen (fun m => some <$> apply m) m.planned
  if progress.failure.isNone then
    tell Level.info s!"Successfully applied {progress.completed.length} migrations"
  return progress

/-- Rolls back the applied migrations above a target version, the newest first. -/
def down (m : Migrator σ) (target : Int) : Work (Catalog δ) (Progress σ) := do
  let current ← version
  if current ≤ target then
    tell Level.info "Target version is not lower than current version"
    return ⟨m.planned, [], none⟩
  let chosen := isBetween target current
  tell Level.info s!"Rolling back {(m.migrations.filter chosen).length} migrations"
  let progress ← runEach chosen (fun m => do rollback m; return none) m.planned.reverse
  if progress.failure.isNone then
    tell Level.info s!"Successfully rolled back {progress.completed.length} migrations"
  return { progress with planned := progress.planned.reverse }

def validateRows (m : Migrator σ) : List Applied → Work (Catalog δ) Bool
  | [] => do
    tell Level.info "All applied migrations validated successfully"
    return true
  | row :: rows => do
    match m.migrations.find? fun known => known.version == row.version with
    | none =>
      tell Level.warning s!"Applied migration v{row.version} not found in definitions"
      validateRows m rows
    | some known =>
      let checksum ← Act.ofExcept (known.checksum.mapError .unencodable)
      if row.checksum = checksum then validateRows m rows
      else
        tell Level.error (s!"Checksum mismatch for v{row.version}: expected " ++ checksum ++ ", got " ++ row.checksum)
        return false

def validate (m : Migrator σ) : Work (Catalog δ) Bool := do validateRows m (← applied)

def status (m : Migrator σ) : Work (Catalog δ) MigrationStatus := do
  let current ← version
  let pending ← m.pending none
  let applied ← applied (δ := δ)
  return ⟨current, m.latest, applied.length, pending.map fun p => (p.version, p.name)⟩

end Migrator
end Passbook
