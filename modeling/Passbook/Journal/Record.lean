import Passbook.Journal.Level
import Passbook.Json.Filled
import Passbook.Json.Printer
import Passbook.Time.Instant
/-! Log records and their two written forms. -/
namespace Passbook.Journal

/-- The named items of a record beyond its message; an absent item is not written. -/
structure Details where
  correlation : Option Json
  user : Option Json
  action : Option Json
  resource : Option Json
  extra : Option Json

def Details.none : Details := ⟨.none, .none, .none, .none, .none⟩

inductive RecordFault where
  | filling (fault : Json.FillFault)
  /-- Something else stands where the message is made. -/
  | uncallable (kind : String)
  /-- What stands for an error has no parts, or too few of them, or none that is numbered. -/
  | partless (kind : String)
  | shortList
  | shortText
  | unnumbered
  /-- A part of what stands for an error lacks what an error has. -/
  | lacking (kind name : String)
  /-- An error that takes more than a text, and the name of what makes it, if that has one. -/
  | needsMore (maker : Option String) (count : Nat)
deriving DecidableEq, Repr

def RecordFault.message : RecordFault → String
  | .filling fault => fault.message
  | .uncallable kind => s!"'{kind}' object is not callable"
  | .partless kind => s!"'{kind}' object is not subscriptable"
  | .shortList => "list index out of range"
  | .shortText => "string index out of range"
  | .unnumbered => "2"
  | .lacking kind name => s!"'{kind}' object has no attribute '{name}'"
  | .needsMore maker count =>
    (match maker with
      | some maker => maker ++ "()"
      | none => "function") ++ s!" takes exactly {count} arguments (1 given)"

private def causeKind (name : String) : Except RecordFault String :=
  match name with
  | "IOError" | "EnvironmentError" => .ok "OSError"
  | "UnicodeEncodeError" | "UnicodeDecodeError" => .error (.needsMore none 5)
  | "UnicodeTranslateError" => .error (.needsMore none 4)
  | "BaseExceptionGroup" | "ExceptionGroup" => .error (.needsMore (some "BaseExceptionGroup.__new__") 2)
  | kind => .ok kind

/-- An error as a record names it. A missing key is shown, and an error of grammar without a text says so. -/
def causeText (name : String) (message : Json) : Except RecordFault String := do
  let kind ← causeKind name
  let text := if kind = "KeyError" then message.shown
    else if message.plain.isEmpty ∧ ["SyntaxError", "IndentationError", "TabError"].contains kind then "<no detail available>"
    else message.plain
  return if text.isEmpty then kind else kind ++ ": " ++ text

/-- The text of what stands for an error, of which the second part is its value and the third the calls that led to it.
Nothing of either kind can be told by name. -/
def statedCause : Json → Except RecordFault (Option String)
  | .string s => .error (if (Text.codes s).length < 3 then .shortText else .lacking "str" "tb_frame")
  | .array (_ :: .null :: .null :: _) => .ok (some "NoneType: None")
  | .array (_ :: value :: .null :: _) => .error (.lacking value.kind "__suppress_context__")
  | .array (_ :: _ :: calls :: _) => .error (.lacking calls.kind "tb_frame")
  | .array _ => .error .shortList
  | .object _ => .error .unnumbered
  | value => .error (.partless value.kind)

structure Record where
  time : Time.Reading
  level : Level
  source : String
  message : String
  details : Details
  /-- Name and text of an error reported with the record. -/
  cause : Option String := Option.none

namespace Record

private def entry (time level source message : Json) (details : Details) (cause : Option String) : Json :=
  .ofPresent [
    ("timestamp", some time),
    ("level", some level),
    ("module", some source),
    ("message", some message),
    ("correlation_id", details.correlation),
    ("user_id", details.user),
    ("action", details.action),
    ("resource", details.resource),
    ("extra", details.extra),
    ("exception", cause.map .string)]

def toJson (r : Record) : Json :=
  entry (.string r.time.text) (.string (Level.name r.level)) (.string r.source) (.string r.message) r.details r.cause

private def dropNulls : Json → Json
  | .object members => .object (members.filter fun member => match member.2 with
    | .null => false
    | _ => true)
  | value => value

/-- The entry of a record of which everything is given by name; arguments are filled into its message, and what is given for
an error stands for the one that was reported. -/
def entryOf (time : Time.Reading) (attributes : List (String × Json)) (cause : Option String) : Except RecordFault Json := do
  let given (name : String) : Option Json := (Json.object attributes).member? name
  let value (name : String) : Json := (given name).getD .null
  if let some other := given "getMessage" then throw (.uncallable other.kind)
  let pattern := (value "msg").plain
  let message ← if (value "args").isFilled then (Json.fill pattern (value "args")).mapError .filling else pure pattern
  let cause ← match given "exc_info" with
    | some stated => if stated.isFilled then statedCause stated else pure none
    | none => pure cause
  let details : Details :=
    ⟨value "correlation_id", value "user_id", value "action", value "resource", value "extra"⟩
  return dropNulls (entry (.string time.text) (value "levelname") (value "name") (.string message) details cause)

def line (r : Record) : String := r.toJson.text

def plainText (r : Record) : String := Level.name r.level ++ " " ++ r.source ++ ": " ++ r.message

end Record

def Details.ofAction (action resource : String) (extra : Option Json) : Details :=
  { Details.none with action := some (.string action), resource := some (.string resource), extra }

def atLeast (level : Level) (records : List Record) : List Record := records.filter fun r => level ≤ r.level

end Passbook.Journal
