import Passbook.Remote.Line
import Passbook.Store.Session
import Passbook.Text.Blank
/-! Sessions on a database server. Each leases a connection of its own, commits if its work has answered and is rolled back
if not, and gives the connection back in any case. -/
namespace Passbook.Remote

def constraintOf? : String → Option Constraint
  | "23505" => some .unique
  | "23503" => some .foreignKey
  | "23514" => some .check
  | "23502" => some .notNull
  | "22003" => some .outOfRange
  | _ => none

/-- An error that reports a broken rule; its text is trimmed. -/
def violation? (e : ServerError) : Option Violation :=
  let rule := e.code.bind constraintOf?
  if e.kind = .integrity ∨ rule.isSome then
    some ⟨rule.getD .unknown, String.ofList (Text.trim Text.isBlankOrSeparator e.message.toList), e.constraint⟩
  else none

def report (operation : String) (e : ServerError) : Failure :=
  match violation? e with
  | some v => .violation v
  | none => .ledger (.storage operation e.message)

/-- Reports errors of the server under the operation; others go on as they are. -/
def recastServer (operation : String) : Failure → Failure
  | .server e => report operation e
  | e => e

namespace Talk
variable {α : Type}

def execute (operation : String) (wording : Wording) (values : List Json) : Talk Result := do
  let _ ← send .openCursor
  let outcome ← (Act.recast (recastServer operation) (send (.execute wording values))).outcome
  note .closeCursor
  Act.ofExcept outcome

def commitOrUndo (a : α) : Talk α := do
  match ← (send .commit).outcome with
  | .ok _ => return a
  | .error (.server e) => do
    let _ ← send .rollback
    throw (.ledger (.storage "commit" e.message))
  | .error e => throw e

def onLease (work : Talk α) : Talk α := do
  let _ ← send .configure
  match ← work.outcome with
  | .ok a => commitOrUndo a
  | .error e => do
    let _ ← send .rollback
    throw e

/-- What a failed lease is reported as: only an error of the pool is one of the store. -/
def recastLease : Failure → Failure
  | .server e => if e.kind = .pool then .ledger (.storage "acquire connection" e.message) else .server e
  | e => e

def session (work : Talk α) : Talk α := do
  if !(← get).isOpen then throw Work.closedStore
  let _ ← Act.recast recastLease (send .lease)
  let outcome ← (onLease work).outcome
  note .giveBack
  Act.ofExcept outcome

def openPool (url : String) (size timeout : Json) : Talk Unit := do
  let recast : Failure → Failure
    | .server e => .ledger (.storage "connect" e.message)
    | e => e
  let _ ← Act.recast recast (send (.openPool (.int 1) size url timeout))
  modify fun line => { line with isOpen := true }

def closePool : Talk Unit := do
  if (← get).isOpen then
    note .closePool
    modify fun line => { line with isOpen := false }

end Talk
end Passbook.Remote
