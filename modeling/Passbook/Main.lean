import Passbook.Journal.Logger
import Passbook.Launch
import Passbook.Text.Utf8
import Std.Time.DateTime.Timestamp
/-! The service on a console. Settings come from the environment; the store is kept in memory. Each line of input is a
request (method, target and, if there is one, body, set apart by blanks), and each is answered by a line with the status
and the body. The journal goes to the error stream, or to the log file of the settings. -/
namespace Passbook.Main
open Decimal Journal Time

def readVariables : IO (List (String × String)) := do
  let names := Settings.fieldNames.map fun field => (Sources.variableStart {} ++ field).toUpper
  names.filterMapM fun name => do return (← IO.getEnv name).map fun value => (name, Text.ofPlain value)

def readClock : IO Reading := do
  let nanos := (← Std.Time.Timestamp.now).toNanosecondsSinceUnixEpoch.val
  return (Reading.ofUnixMicros? (nanos / 1000)).getD Reading.default

def readMonotonic : IO Number := return .ofFloat (Float.ofNat (← IO.monoMsNow) / 1000)

/-- Writes a text; halves of pairs have bytes too. -/
def write (stream : IO.FS.Stream) (text : String) : IO Unit :=
  stream.write ⟨((Text.utf8Bytes text).map Nat.toUInt8).toArray⟩

def lineOf (settings : Settings) (r : Record) : String :=
  match Layout.ofName settings.logFormat with
  | .plain => r.time.text ++ " " ++ r.plainText
  | .structured => r.line

def writeJournal (settings : Settings) (records : List Record) : IO Unit := do
  let level := (Level.named? settings.logLevel).getD Level.info
  let lines := (atLeast level records).map fun r => lineOf settings r ++ "\n"
  match settings.logFile with
  | none => lines.forM (write (← IO.getStderr))
  | some path => IO.FS.withFile path .append fun file => lines.forM (write (.ofHandle file))

def readRequest (line : String) : Http.Request :=
  match (Text.ofPlain line.trimAscii.toString).splitOn " " with
  | [method] => { method, target := "/" }
  | [method, target] => { method, target }
  | method :: target :: body => { method, target, body := some (" ".intercalate body) }
  | [] => { method := "", target := "" }

def writeResponse (r : Http.Response) : String :=
  toString r.status ++ " " ++ match r.body with
    | .json value => value.text
    | .text value => value

def answer (request : Http.Request) (system : System Number) : IO (System Number) := do
  let clock ← readMonotonic
  let system := { system with store.now := ← readClock, store.journal := [], shelf.clock := clock }
  let (outcome, system) := Http.handle request system
  writeJournal system.settings system.store.journal
  write (← IO.getStdout) (match outcome with
    | .ok response => writeResponse response ++ "\n"
    | .error e => "500 " ++ e.message ++ "\n")
  return system

partial def serve (input : IO.FS.Stream) (system : System Number) : IO Unit := do
  let line ← input.getLine
  if !line.isEmpty then serve input (← answer (readRequest line) system)

end Passbook.Main

open Passbook Decimal in
def main : IO UInt32 := do
  match Launch.start (← Main.readVariables) Number.whole (← Main.readMonotonic) (← Main.readClock) with
  | .error e =>
    Main.write (← IO.getStdout) (Launch.Ending.failed e.message).farewell
    return 1
  | .ok launch =>
    let system := launch.app.system
    Main.writeJournal system.settings (launch.opening.toList ++ system.store.journal)
    Main.serve (← IO.getStdin) system
    return 0
