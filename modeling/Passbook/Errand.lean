import Passbook.Call
import Passbook.Http.Service
import Passbook.Migration.Step
import Passbook.Plan
import Passbook.Store.Files
/-! Errands on a hosted system: everything that can be asked of it from outside, as data. A hosted system can be started
anew, on an empty store, on what an earlier one left in a file, or on a store that was lent to it. -/
namespace Passbook
open Time

structure Host (τ : Type) where
  system : System τ
  /-- The store was handed in, and stays with whoever did so. -/
  isLent : Bool
  sources : Sources
  /-- A whole number of seconds as a span of the shelf's clock. -/
  seconds : Int → τ
  /-- What the store was opened on. -/
  address : StoreAddress
  files : Files Database := {}

instance {τ : Type} : Holds (Host τ) Database := ⟨fun h => h.system.store, fun store h => { h with system.store := store }⟩

abbrev HostAct (τ α : Type) := Act (Host τ) α

/-- The content of a store as its next session would find it; there is nothing to see while a session is open. -/
structure Snapshot where
  accounts : Option (List Account)
  orders : Option (List (Order Instant))
  entries : Option (List (Entry Instant))
  versions : Option (List Int)

def Snapshot.take (store : Store Database) : Snapshot :=
  match store.status with
  | .idle =>
    let tables := store.content.schema
    ⟨tables.accounts, tables.orders, tables.log.map Log.entries, some (store.content.applied.map AppliedRow.version)⟩
  | _ => ⟨none, none, none, none⟩

inductive Errand (τ : Type) where
  | call (call : Call)
  | setClock (now : Reading)
  | tick (micros : Int)
  | reportKey (year month : Int) (clock : Option Reading)
  | reportContent (key : String)
  | reportLink (baseUrl : String) (mountPath : Option String) (year month : Int)
  | ownReportLink (year month : Int)
  | shelf (step : Shelf.Step τ)
  | migration (step : MigrationStep)
  | close
  | restart (changes : List (String × Json))
  | request (request : Http.Request)
  | snapshot
  /-- Fails whatever the state. -/
  | fail (failure : Failure)

inductive Reply where
  | done
  | answer (answer : Answer)
  | time (now : Reading)
  | text (text : String)
  | shelf (answer : Shelf.Answer)
  | migration (answer : MigrationAnswer)
  | response (response : Http.Response)
  | snapshot (tables : Snapshot)

namespace Host
variable {τ α : Type}

def onSystem (act : SystemAct τ α) : HostAct τ α := act.onPart Host.system fun system h => { h with system }

private def addressOf (isLent : Bool) (settings : Settings) : Except Failure StoreAddress := do
  if isLent then return .memory
  let address ← (StoreAddress.ofUrl settings.databaseUrl).mapError .address
  let _ ← (address.opened false).mapError .address
  return address

def start (isLent : Bool) (sources : Sources) (seconds : Int → τ) (time : τ) (store : Store Database) :
    Except Failure (Host τ) × Store Database :=
  match (Settings.load sources).mapError .fields >>= fun settings => (settings, ·) <$> addressOf isLent settings with
  | .error e => (.error e, store)
  | .ok (settings, address) =>
    let (outcome, store) := System.start settings isLent seconds time store
    (outcome.map fun system => { system, isLent, sources, seconds, address }, store)

private def release : HostAct τ Unit := do
  if !(← get).isLent then
    onSystem System.close
    modify fun h => { h with files := h.files.put h.address h.system.store.content, address := .memory }

/-- Closes the system unless its store was lent, and starts a new one with some settings changed, on what it finds under the
address of its own settings. After a start that fails the closed system stays, or the one with the lent store. -/
def restart (changes : List (String × Json)) : HostAct τ Unit := do
  release
  let h ← get
  let settings ← Act.ofExcept
    ((Settings.load { h.sources with explicit := h.sources.explicit ++ changes }).mapError .fields)
  let address ← Act.ofExcept (addressOf h.isLent settings)
  let found : Store Database := if h.isLent then h.system.store
    else { h.system.store with status := .idle, content := (h.files.find? address).getD Database.empty }
  let (outcome, store) := System.start settings h.isLent h.seconds h.system.shelf.clock found
  set { h with system.store := store, files := h.files.put address store.content }
  let system ← Act.ofExcept outcome
  modify fun h => { h with system, address }

variable [Add τ] [Sub τ] [LT τ] [DecidableLT τ] [Reach τ]

/-- Runs an errand; `isJoined` tells whether a call is joined to the open session. Only calls can be joined. -/
def run (isJoined : Bool) : Errand τ → HostAct τ Reply
  | .call call => .answer <$> Act.onStore (call.run isJoined)
  | .setClock now => (fun _ => .done) <$> Act.onStore (Work.setClock now)
  | .tick micros => do
    let now ← Act.onStore Work.clock
    let wall ← Act.ofExcept ((now.wall.shift micros).mapError .time)
    Act.onStore (Work.setClock { now with wall })
    return .time { now with wall }
  | .reportKey year month clock => .text <$> onSystem (System.reportKey year month clock)
  | .reportContent key => do
    let content ← onSystem (System.reportContent key)
    .text <$> Act.ofExcept (Failure.textOf content)
  | .reportLink baseUrl mountPath year month =>
    .text <$> onSystem (System.reportLink baseUrl (mountPath.getD (Settings.mountPath {})) year month)
  | .ownReportLink year month => .text <$> onSystem (System.ownReportLink year month)
  | .shelf step => .shelf <$> onSystem (System.onShelf step)
  | .migration step => do
    let (outcome, _) ← Act.onStore (System.migrator.carryOut step)
    .migration <$> Act.ofExcept outcome
  | .close => (fun _ => .done) <$> onSystem System.close
  | .restart changes => (fun _ => .done) <$> restart changes
  | .request request => .response <$> onSystem (Http.handle request)
  | .snapshot => do return .snapshot (Snapshot.take (← get).system.store)
  | .fail failure => throw failure

def carryOut (plan : Plan (Errand τ)) : HostAct τ (Plan.Outcome Reply × List Journal.Record) := do
  let (outcome, records) ← (Plan.carryOut run false plan).told
  return (← Act.ofExcept outcome, records)

end Host
end Passbook
