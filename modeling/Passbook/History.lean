import Passbook.Operation
import Passbook.Text.Uppercase
/-! The transaction log as its readers and writers see it: entries are appended inside the unit of the balance change they
record, and listed by account in pages. -/
namespace Passbook.History
open AccountRows Journal LogRows Time

def recastRefusal (sender receiver : Int) : Failure → Failure
  | .violation v => .ledger (match v.kind with
    | .unique => .entryExists v.message
    | .foreignKey => .entryAccountNotFound sender receiver
    | _ => .entryRefused ("append transaction: " ++ v.message))
  | e => e

def append (kind : EntryKind) (sender receiver amount : Int) (description : Option String) :
    LedgerWork (Entry Instant) := do
  let now ← Work.instant
  let entry ← Act.recast (recastRefusal sender receiver) <|
    LedgerWork.ask "append transaction" (LogRows.append ⟨kind, sender, receiver, amount, description, now⟩)
  Work.record Level.debug "payment_ledger.transactions" ("Transaction logged: " ++ kind.name)
    (.ofAction "append_transaction" s!"transaction:{entry.id}"
      (some (.object [("sender_id", .int sender), ("receiver_id", .int receiver), ("amount", .int amount)])))
  return entry

/-- What part of an account's entries is asked for, and in which order. -/
structure Listing where
  limit : Option Int := some 10
  offset : Option Int := some 0
  sort : Option SortField := none
  direction : Direction := .ascending
deriving DecidableEq, Repr

def sortName : SortField → String
  | .date => "date"
  | .sum => "sum"

def directionName : Direction → String
  | .ascending => "asc"
  | .descending => "desc"

namespace Listing

def maxLimit : Int := 100

private def columnOf : SortField → String
  | .date => "created_at"
  | .sum => "amount"

def orderBy (l : Listing) : String :=
  let way := match l.direction with
    | .ascending => "ASC"
    | .descending => "DESC"
  match l.sort with
  | none => "id " ++ way
  | some field => columnOf field ++ " " ++ way ++ ", id " ++ way

def sortOfName? (name : String) : Option SortField := [SortField.date, .sum].find? fun f => sortName f == name

def directionOfName? (name : String) : Option Direction :=
  [Direction.ascending, .descending].find? fun d => directionName d == name

private def ofWord {ε α : Type} (read : String → Option α) (fault : String → ε) (word : Option String) :
    Except ε (Option α) :=
  (word.filter (· ≠ "")).mapM fun word => match read word with
    | some a => .ok a
    | none => .error (fault word)

/-- A listing from what a reader asked for, in words of any case. A limit outside 1 to 100 and a negative offset give way to
the defaults. -/
def ofRequest (sort direction : Option String) (limit offset : Option Int) : Except LedgerError Listing := do
  let sort ← ofWord (sortOfName? ∘ Text.asciiLowercase) (.invalidListing <| "Unknown sort field: " ++ ·) sort
  let direction ← ofWord (directionOfName? ∘ Text.asciiLowercase) (.invalidListing <| "Unknown sort direction: " ++ ·) direction
  return {
    limit := some ((limit.filter fun n => 0 < n && n ≤ maxLimit).getD 10)
    offset := some ((offset.filter fun n => 0 ≤ n).getD 0)
    sort, direction := direction.getD .ascending }

private theorem ofWord_cases {ε α : Type} (read : String → Option α) (fault : String → ε) (word : Option String) :
    (∃ a, ofWord read fault word = .ok a) ∨ ∃ text, ofWord read fault word = .error (fault text) := by
  unfold ofWord
  cases word.filter (· ≠ "") with
  | none => exact .inl ⟨none, rfl⟩
  | some text =>
    cases known : read text with
    | some a =>
      refine .inl ⟨some a, ?_⟩
      change some <$> _ = _
      dsimp only
      rw [known]
      rfl
    | none =>
      refine .inr ⟨text, ?_⟩
      change some <$> _ = _
      dsimp only
      rw [known]
      rfl

/-- A request for a listing has a limit and an offset, or a word in it stands for nothing. -/
theorem ofRequest_cases (sort direction : Option String) (limit offset : Option Int) :
    (∃ listing limit' offset', ofRequest sort direction limit offset = .ok listing ∧ listing.limit = some limit' ∧
        listing.offset = some offset') ∨
      ∃ message, ofRequest sort direction limit offset = .error (.invalidListing message) := by
  unfold ofRequest
  rcases ofWord_cases (sortOfName? ∘ Text.asciiLowercase) (LedgerError.invalidListing <| "Unknown sort field: " ++ ·) sort with
    ⟨field, known⟩ | ⟨text, unknown⟩
  · rw [known]
    rcases ofWord_cases (directionOfName? ∘ Text.asciiLowercase) (LedgerError.invalidListing <| "Unknown sort direction: " ++ ·)
      direction with ⟨way, known⟩ | ⟨text, unknown⟩
    · rw [known]
      exact .inl ⟨_, _, _, rfl, rfl, rfl⟩
    · rw [unknown]
      exact .inr ⟨_, rfl⟩
  · rw [unknown]
    exact .inr ⟨_, rfl⟩

def ofWords (sort direction : Option String) (limit offset : Option Int) : Except Failure Listing := do
  let sort ← ofWord sortOfName? (.notAmong · "SortField") sort
  let direction ← ofWord directionOfName? (.notAmong · "SortDirection") direction
  return { limit, offset, sort, direction := direction.getD .ascending }

end Listing

def list (account : Int) (listing : Listing) : Operation (List (Entry Instant) × Nat) where
  body := do
    let entries ← LedgerWork.ask "list transactions"
      (LogRows.page account listing.sort listing.direction listing.limit listing.offset)
    let total ← LedgerWork.ask "count transactions" (LogRows.count account)
    return (entries, total)

def signedAmount {τ : Type} (e : Entry τ) : Except Failure Cell :=
  match e.signedAmount? with
  | some amount => .ok amount
  | none => .error (.unsuited .negatedText)

end Passbook.History
