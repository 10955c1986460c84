import Passbook.Act
import Passbook.Journal.Record
/-! A store and the work done on it. A unit of work opens a session: it commits as a whole or leaves the content as it
was. Statements run inside a session only; one that is refused changes nothing. Work joined to an open session runs
in its caller's unit. -/
namespace Passbook
open Journal Time

/-- Contents in which rows may refer to other rows. -/
class Keyed (δ : Type) where
  /-- Some row refers to a row that is not there. -/
  orphaned : δ → Bool

/-- Whether a session is open, and if so what a rollback restores. -/
inductive Status (δ : Type) where
  | idle
  | busy (saved : δ) (deferred : Bool)
  | closed

structure Store (δ : Type) where
  content : δ
  status : Status δ
  now : Reading
  journal : List Record

/-- A statement: told whether references are checked at commit only, it is refused or answers with the new content. -/
def Statement (δ α : Type) := Bool → δ → Except Refusal (α × δ)

/-- Work fails or answers; what it changed stays in either case. -/
abbrev Work (δ α : Type) := Act (Store δ) α

namespace Work
variable {δ α β : Type}

def clock : Work δ Reading := fun s => (.ok s.now, s)

def instant : Work δ Instant := do Act.ofExcept ((← clock).instant.mapError .time)

def setClock (now : Reading) : Work δ Unit := fun s => (.ok (), { s with now })

def record (level : Level) (source message : String) (details : Details := .none) : Work δ Unit := fun s =>
  (.ok (), { s with journal := s.journal ++ [{ time := s.now, level, source, message, details }] })

def execute (operation : String) (statement : Statement δ α) : Work δ α := fun s =>
  match s.status with
  | .idle => (.error (.closed .statement), s)
  | .closed => (.error (.closed .statement), s)
  | .busy _ deferred => match statement deferred s.content with
    | .ok (a, content) => (.ok a, { s with content })
    | .error r => (.error (.ofStore (r.raise operation)), s)

/-- Puts the check of references off to the commit of this session. -/
def deferReferences : Work δ Unit := fun s =>
  match s.status with
  | .idle => (.error (.closed .statement), s)
  | .closed => (.error (.closed .statement), s)
  | .busy saved _ => (.ok (), { s with status := .busy saved true })

def closedStore : Failure := .ledger (.storage "begin" "storage is closed")

def openSession : Failure := .ledger (.storage "begin" "a session is already open on this connection")

def orphansAtCommit : Failure := .ledger (.storage "commit" "FOREIGN KEY constraint failed")

def rollback (e : Failure) (s : Store δ) : Except Failure α × Store δ :=
  match s.status with
  | .busy saved _ => (.error e, { s with content := saved, status := .idle })
  | _ => (.error (.closed .rollback), s)

def commit [Keyed δ] (a : α) (s : Store δ) : Except Failure α × Store δ :=
  match s.status with
  | .busy saved deferred =>
    if deferred && Keyed.orphaned s.content then
      (.error orphansAtCommit, { s with content := saved, status := .idle })
    else (.ok a, { s with status := .idle })
  | _ => (.error (.closed .commit), s)

/-- Opens a session, of which a store has one at most. -/
def openUnit : Work δ Unit := fun s =>
  match s.status with
  | .closed => (.error closedStore, s)
  | .busy _ _ => (.error openSession, s)
  | .idle => (.ok (), { s with status := .busy s.content false })

def closeUnit [Keyed δ] (outcome : Except Failure α) : Work δ α := fun s =>
  match outcome with
  | .ok a => commit a s
  | .error e => rollback e s

/-- Runs work as one unit in a session of its own. -/
def inUnit [Keyed δ] (w : Work δ α) : Work δ α := do
  openUnit
  closeUnit (← w.outcome)

/-- Closes the store; an open unit is undone and its work finds the store closed. -/
def close : Work δ Unit := fun s =>
  match s.status with
  | .busy saved _ => (.ok (), { s with content := saved, status := .closed })
  | _ => (.ok (), { s with status := .closed })

end Work

class Holds (σ : Type) (δ : outParam Type) where
  store : σ → Store δ
  putStore : Store δ → σ → σ

instance {δ : Type} : Holds (Store δ) δ := ⟨id, fun store _ => store⟩

namespace Act
variable {σ δ α : Type} [Holds σ δ]

def onStore (w : Work δ α) : Act σ α := w.onPart Holds.store Holds.putStore

private def exchangeJournal (journal : List Record) : Act σ (List Record) :=
  onStore fun store => (.ok store.journal, { store with journal })

/-- An act with the records it writes, which the journal does not keep. -/
def told (act : Act σ α) : Act σ (Except Failure α × List Record) := do
  let before ← exchangeJournal []
  let outcome ← act.outcome
  return (outcome, ← exchangeJournal before)

end Act
end Passbook
