import Passbook.Migration.Migrator
import Passbook.Migration.Schema
import Passbook.Orders
import Passbook.Report
import Passbook.Settings
import Passbook.Shelf
import Passbook.Store.Address
/-! The payment system: its settings, the store, and the shelf of generated reports. -/
namespace Passbook
open Journal Time

structure System (τ : Type) where
  settings : Settings
  store : Store Database
  shelf : Shelf τ

abbrev SystemAct (τ α : Type) := Act (System τ) α

instance {τ : Type} : Holds (System τ) Database := ⟨System.store, fun store s => { s with store }⟩

namespace System
variable {τ α : Type}

def work (w : LedgerWork α) : SystemAct τ α := Act.onStore w

def clock : SystemAct τ Reading := work Work.clock

def tellNotes (notes : List Note) : LedgerWork Unit :=
  notes.forM fun note => Work.record note.level Shelf.source note.message note.details

def dialect : String := StoreAddress.memory.dialect

def migrator : Migrator Ddl := .ofList Ddl.migrations

/-- Brings a store up to date before it is used, if the settings say so. -/
def prepareStore (settings : Settings) : LedgerWork Unit := do
  Migrator.prepare
  if settings.migratesOnStart then
    let progress ← migrator.up none
    match progress.failure with
    | some e => throw e
    | none => pure ()

/-- Starts a system on a store. If the store cannot be brought up to date, it is closed unless it was lent. `seconds` reads a
whole number of seconds as a span of the shelf's clock. -/
def start (settings : Settings) (isLent : Bool) (seconds : Int → τ) (time : τ) (store : Store Database) :
    Except Failure (System τ) × Store Database :=
  let preparation : LedgerWork Unit := do
    match ← (prepareStore settings).outcome with
    | .ok () => Work.record Level.info "payment_ledger" ("Payment system ready (" ++ settings.environment ++ ", " ++ dialect ++ ")")
    | .error e =>
      if !isLent then
        Work.record Level.error "payment_ledger" "Schema migration failed, closing storage"
        Work.close
      throw e
  let shelf : Shelf τ := ⟨⟨seconds settings.cacheTtl, seconds settings.cacheInterval, []⟩, time, true⟩
  match preparation store with
  | (.ok (), store) => (.ok ⟨settings, store, shelf⟩, store)
  | (.error e, store) => (.error e, store)

def close : SystemAct τ Unit := do
  modify fun s => { s with shelf.sweeping := false }
  work Work.close

variable [Add τ] [Sub τ] [LT τ] [DecidableLT τ] [Reach τ]

def onShelf (step : Shelf.Step τ) : SystemAct τ Shelf.Answer := do
  let (outcome, notes, shelf) := (← get).shelf.step step
  modify fun s => { s with shelf }
  work (tellNotes notes)
  Act.ofExcept outcome

def isShelved (key : String) : SystemAct τ Bool := do
  match ← onShelf (.contains key) with
  | .truth b => return b
  | _ => return false

/-- Makes sure that the report of a finished month is on the shelf and answers with its key. -/
def reportKey (year month : Int) (at? : Option Reading) : SystemAct τ String := do
  if !isMonth month then throw (.month month)
  let reading := at?.getD (← clock)
  if !Report.isOver year month reading then throw (.ledger (.reportNotAvailable year month))
  let key := Report.key year month
  if ← isShelved key then return key
  let totals ← work (Work.inUnit (Report.monthly year month))
  if totals.isEmpty then throw (.ledger (.reportNotFound key))
  Act.ofExcept (Report.checkOrder totals)
  let _ ← onShelf (.set key (Report.csvBytes totals))
  work <| Work.record Level.info "payment_ledger.reporting" "Report generated"
    (.ofAction "generate_report" ("report:" ++ key)
      (some (.object [("services", .int totals.length), ("total", .int (totals.foldr (fun total sum => total.2 + sum) 0))])))
  return key

def reportContent (key : String) : SystemAct τ Bytes := do
  match ← onShelf (.get key) with
  | .bytes value => return value
  | _ => return []

private def withoutSlashes (url : String) : String :=
  String.ofList (url.toList.reverse.dropWhile (· == '/')).reverse

def reportLink (baseUrl mountPath : String) (year month : Int) : SystemAct τ String := do
  let key ← reportKey year month none
  return withoutSlashes baseUrl ++ mountPath ++ "/report?key=" ++ key

def ownReportLink (year month : Int) : SystemAct τ String := do
  let settings := (← get).settings
  reportLink settings.reportBaseUrl settings.mountPath year month

def paidAmounts (year month : Int) : SystemAct τ Report.Totals := work (Work.inUnit (Report.monthly year month))

end System
end Passbook
