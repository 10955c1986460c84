import Passbook.Store.Session
/-! A schema together with the record of the migrations applied to it. -/
namespace Passbook

/-- One applied migration as recorded; the time is kept as text. -/
structure AppliedRow where
  version : Int
  name : String
  checksum : String
  appliedAt : String
deriving DecidableEq, Repr

def recordName : String := "schema_migrations"

/-- What has become of the table that keeps the record: a migration may drop it, or make another in its place. -/
inductive RecordTable where
  | kept
  | dropped
  | replaced
deriving DecidableEq, Repr

structure Catalog (δ : Type) where
  schema : δ
  applied : List AppliedRow
  record : RecordTable := .kept
deriving DecidableEq, Repr

instance {δ : Type} [Keyed δ] : Keyed (Catalog δ) where
  orphaned c := Keyed.orphaned c.schema

def Statement.onSchema {δ α : Type} (statement : Statement δ α) : Statement (Catalog δ) α := fun deferred c => do
  let (a, schema) ← statement deferred c.schema
  return (a, { c with schema })

end Passbook
