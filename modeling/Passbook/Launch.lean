import Passbook.Http.Application
import Passbook.Journal.Logger
/-! Launching the service: settings come from the environment, the first record tells of them with the password masked, and
then the server is told where to listen. -/
namespace Passbook
open Journal

structure Listening where
  host : String
  port : Int
  logLevel : String
deriving DecidableEq, Repr

structure Launch (τ : Type) where
  listening : Listening
  /-- The first record, if the level of the journal lets it through. -/
  opening : Option Record
  layout : Layout
  app : Http.Application τ

namespace Launch
variable {τ : Type}

def listeningOf (s : Settings) : Listening := ⟨s.host, s.port, Text.asciiLowercase s.logLevel⟩

def openingOf (s masked : Settings) (time : Time.Reading) : Option Record :=
  let level := (Level.named? s.logLevel).getD Level.info
  if level ≤ Level.info then
    some { time, level := Level.info, source := "payment_ledger", message := "Starting payment ledger",
           details := { Details.none with extra := some masked.toJson } }
  else none

def start (assigned : List (String × String)) (seconds : Int → τ) (monotonic : τ) (time : Time.Reading) :
    Except Failure (Launch τ) := do
  let settings ← (Settings.load { assigned }).mapError .fields
  let some masked := settings.masked? | throw .unmaskable
  let _ ← (StoreAddress.ofUrl settings.databaseUrl >>= (·.opened false)).mapError .address
  let (system, _) := System.start settings false seconds monotonic ⟨Database.empty, .idle, time, []⟩
  return ⟨listeningOf settings, openingOf settings masked time, Layout.ofName settings.logFormat,
    ← Http.Application.mount (← system) true⟩

/-- The first record as it is read back from its line. A line of plain text starts with a year, after which nothing can be
read. -/
def firstEntry (launch : Launch τ) : Except Failure (Option Json) :=
  match launch.opening, launch.layout with
  | none, _ => .ok none
  | some r, .structured => .ok (some r.toJson)
  | some _, .plain => .error (.extraData 4)

inductive Ending where
  | returned
  | interrupted
  | failed (reason : String)
deriving DecidableEq, Repr

def Ending.farewell : Ending → String
  | .returned => ""
  | .interrupted => "\nShutting down payment ledger...\n"
  | .failed reason => "Error starting server: " ++ reason ++ "\n"

def Ending.exitCode? : Ending → Option Nat
  | .failed _ => some 1
  | _ => none

end Launch
end Passbook
