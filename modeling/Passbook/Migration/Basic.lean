import Passbook.Digest.Md5
import Passbook.Store.AccountRows
import Passbook.Text.Padded
import Passbook.Text.Utf8
/-! Migrations and the table that records which of them have been applied. -/
namespace Passbook

/-- Statements that have a written form. -/
class Worded (σ : Type) where
  wording : σ → String

instance : Worded String := ⟨id⟩

/-- Statements that run on a schema and the record of its migrations. -/
class Runs (σ δ : Type) where
  run : σ → Statement (Catalog δ) Unit

structure Migration (σ : Type) where
  version : Int
  name : String
  up : List σ
  down : Option (List σ)
deriving DecidableEq, Repr

namespace Migration
variable {σ : Type}

def label (m : Migration σ) : String := "Migration v" ++ Text.padded 3 m.version ++ ": " ++ m.name

def described (m : Migration σ) : String := s!"Migration(version={m.version}, name='{m.name}')"

/-- The digest of the statements that apply the migration, one under the other. -/
def checksum [Worded σ] (m : Migration σ) : Except Text.Unencodable String :=
  let text := "\n".intercalate (m.up.map Worded.wording)
  match Text.unencodable? .utf8 text with
  | some fault => .error fault
  | none => .ok (Digest.md5 (Text.utf8Bytes text))

def operation (m : Migration σ) : String := "migration v" ++ Text.padded 3 m.version

end Migration

namespace AppliedRows
open AccountRows
variable {δ : Type}

abbrev Change (δ : Type) (α : Type) := Statement (Catalog δ) α

/-- Goes on if the table of the record is there as it was made; another one lacks the column that is asked for first. -/
def checkTable (c : Catalog δ) (lacking : Refusal) : Except Refusal Unit :=
  match c.record with
  | .kept => .ok ()
  | .dropped => .error (.missingTable recordName)
  | .replaced => .error lacking

def all : Change δ (List AppliedRow) := fun _ c => do
  checkTable c (.missingColumn "version")
  return (c.applied, c)

def add (row : AppliedRow) : Change δ Unit := fun _ c => do
  checkTable c (.noColumn recordName "version")
  let _ ← Argument.bindAll (.ofInt row.version :: [row.name, row.checksum, row.appliedAt].map Argument.ofText)
  if Rows.contains AppliedRow.version row.version c.applied then
    throw (.violated (.unique "schema_migrations.version"))
  return ((), { c with applied := Rows.insert AppliedRow.version row c.applied })

private def matching (version : Int) (c : Catalog δ) : Nat := (c.applied.filter fun r => r.version == version).length

def remove (version : Int) : Change δ Nat := fun _ c => do
  checkTable c (.missingColumn "version")
  bindAll [version]
  return (matching version c, { c with applied := Rows.remove AppliedRow.version version c.applied })

def setChecksum (version : Int) (checksum : String) : Change δ Nat := fun _ c => do
  checkTable c (.missingColumn "checksum")
  let _ ← Argument.bindAll [.ofText checksum, .ofInt version]
  return (matching version c,
    { c with applied := Rows.update AppliedRow.version version (fun r => { r with checksum }) c.applied })

end AppliedRows
end Passbook
