import Passbook.Act
import Passbook.Json.Value
/-! The line to a database server: commands go out, each is answered or refused, and all of them are traced. How the server
behaves is a parameter: any function of what it has been told so far. -/
namespace Passbook.Remote

inductive Wording where
  | text (sql : String)
  | findAccount
  | insertAccount
  | addToBalance
  | takeFromBalance
  | insertOrder
  | appendEntry
deriving DecidableEq, Repr

inductive Command where
  | openPool (least most : Json) (url : String) (timeout : Json)
  | lease
  | configure
  | openCursor
  | execute (wording : Wording) (values : List Json)
  | closeCursor
  | commit
  | rollback
  | giveBack
  | closePool

abbrev Row := List (String × Json)

/-- What a statement brings: its rows, and how many rows the server counts. -/
structure Result where
  rows : List Row
  count : Int

/-- The answer to the last of the commands. -/
abbrev Server := List Command → Except Failure Result

structure Line where
  server : Server
  isOpen : Bool
  trace : List Command

abbrev Talk (α : Type) := Act Line α

namespace Talk
variable {α : Type}

def send (command : Command) : Talk Result := fun line =>
  let trace := line.trace ++ [command]
  (line.server trace, { line with trace })

/-- Sends a command that is always carried out. -/
def note (command : Command) : Talk Unit := fun line => (.ok (), { line with trace := line.trace ++ [command] })

end Talk
end Passbook.Remote
