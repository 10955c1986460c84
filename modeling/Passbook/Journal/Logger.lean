import Passbook.Journal.Record
import Passbook.Text.Charset
/-! Loggers: what is told to one reaches its sink if its level is high enough. -/
namespace Passbook.Journal

inductive Layout where
  | plain
  | structured
deriving DecidableEq, Repr

def Layout.ofName (name : String) : Layout := if name = "text" then .plain else .structured

structure Logger where
  name : String
  level : Level
  layout : Layout
deriving DecidableEq, Repr

namespace Logger

def setUp (name : String) (level : Json) (layout : String) : Except LevelFault Logger := do
  return ⟨name, ← (← Word.ofJson level).setting, Layout.ofName layout⟩

/-- The names above a reversed name, the closest first. Each is what stands before a dot; the character before a dot is passed
over in the search for the next one. -/
private def namesAbove : Nat → List Char → List String
  | 0, _ => []
  | fuel + 1, reversed =>
    match (reversed.dropWhile (· ≠ '.')).drop 1 with
    | [] => []
    | c :: rest => String.ofList (c :: rest).reverse :: namesAbove fuel rest

/-- The closest logger above one among those that have been set up, of which a later one replaces an earlier one. -/
def parent? (known : List Logger) (l : Logger) : Option Logger :=
  (namesAbove l.name.length l.name.toList.reverse).findSome? fun name => known.reverse.find? (·.name == name)

/-- The level a logger lets through: its own, else that of the closest logger above it that has one, else that of the root. -/
def threshold (known : List Logger) (l : Logger) : Level := go known.length l
where
  go : Nat → Logger → Level
    | fuel + 1, l =>
      if l.level ≠ 0 then l.level
      else match l.parent? known with
        | some above => go fuel above
        | none => l.level.orDefault
    | 0, l => l.level.orDefault

def isEnabled (known : List Logger) (l : Logger) (level : Level) : Bool := level ≠ 0 && l.threshold known ≤ level

private def mention (value : Json) : Option Json := if value.isFilled then some value else none

private def mentions (d : Details) : Details where
  correlation := d.correlation.bind mention
  user := d.user.bind mention
  action := d.action.bind mention
  resource := d.resource.bind mention
  extra := d.extra.bind mention

def tell (known : List Logger) (l : Logger) (time : Time.Reading) (level message : Json) (details : Details) :
    Except LevelFault (Option Record) := do
  let level ← (← Word.ofJson level).severity
  if l.isEnabled known level then
    return some { time, level, source := l.name, message := message.plain, details := mentions details }
  else return none

def write (l : Logger) (r : Record) : String :=
  match l.layout with
  | .plain => r.plainText
  | .structured => r.line

/-- What a file keeps of a record. It is in UTF-8, so that a line with a lone half of a pair is lost. -/
def keep? (l : Logger) (r : Record) : Option String :=
  let line := l.write r
  if (Text.unencodable? .utf8 line).isSome then none else some line

end Logger
end Passbook.Journal
