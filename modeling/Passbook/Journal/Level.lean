import Passbook.Json.Shown
import Passbook.Text.Uppercase
/-! Severities of log records, and the words they are asked for by. Words are looked up in capitals among the words of the
journal, of which a few stand for something else than a level. -/
namespace Passbook.Journal

abbrev Level := Nat

inductive LevelFault where
  | notText (kind : String)
  | unknownWord (word : String)
  | unknownName (name : String)
  | notLevel (shown : String)
  | incomparable (kind : String)
  | unhashable (kind : String)
deriving DecidableEq, Repr

def LevelFault.message : LevelFault → String
  | .notText kind => s!"'{kind}' object has no attribute 'upper'"
  | .unknownWord word => s!"module 'logging' has no attribute '{word}'"
  | .unknownName name => "Unknown level: " ++ Text.quoted name
  | .notLevel shown => "Level not an integer or a valid string: " ++ shown
  | .incomparable kind => s!"'>=' not supported between instances of 'int' and '{kind}'"
  | .unhashable kind => s!"unhashable type: '{kind}'"

namespace Level

def debug : Level := 10
def info : Level := 20
def warning : Level := 30
def error : Level := 40
def critical : Level := 50

def name (level : Level) : String :=
  match level with
  | 0 => "NOTSET"
  | 10 => "DEBUG"
  | 20 => "INFO"
  | 30 => "WARNING"
  | 40 => "ERROR"
  | 50 => "CRITICAL"
  | n => s!"Level {n}"

/-- Levels by their upper-case names, of which two have a second one. -/
def named? : String → Option Level
  | "NOTSET" => some 0
  | "DEBUG" => some debug
  | "INFO" => some info
  | "WARN" | "WARNING" => some warning
  | "ERROR" => some error
  | "FATAL" | "CRITICAL" => some critical
  | _ => none

/-- The name of a level given in any form: the name of a level has its number for a name. -/
def nameOf : Json → Except LevelFault Json
  | .int n => .ok (.string (if n < 0 then s!"Level {n}" else name n.toNat))
  | .float x => .ok (match Decimal.wholeValue? x with
    | some n => if 0 ≤ n ∧ n ≤ 50 ∧ n % 10 = 0 then .string (name n.toNat) else .string ("Level " ++ Decimal.shortText x)
    | none => .string ("Level " ++ Decimal.shortText x))
  | .string word => .ok (match named? word with
    | some level => .int level
    | none => .string ("Level " ++ word))
  | .bool false => .ok (.string (name 0))
  | .array items => .error (.unhashable (Json.array items).kind)
  | .object members => .error (.unhashable (Json.object members).kind)
  | value => .ok (.string ("Level " ++ value.plain))

end Level

inductive Word where
  | level (level : Level)
  | pattern (text : String)
  /-- The table of patterns, as it is shown. -/
  | patterns (shown : String)
deriving DecidableEq, Repr

namespace Word

private def linePattern : String := "%(levelname)s:%(name)s:%(message)s"

private def tableShown : String :=
  "\x7b'%': (<class 'logging.PercentStyle'>, '%(levelname)s:%(name)s:%(message)s'), '\x7b': (<class 'logging.StrFormatStyle'>, " ++
  "'\x7blevelname\x7d:\x7bname\x7d:\x7bmessage\x7d'), '$': (<class 'logging.StringTemplateStyle'>, " ++
  "'$\x7blevelname\x7d:$\x7bname\x7d:$\x7bmessage\x7d')\x7d"

def ofJson : Json → Except LevelFault Word
  | .string name =>
    let word := Text.uppercase name
    match Level.named? word with
    | some known => .ok (.level known)
    | none =>
      if word = "BASIC_FORMAT" then .ok (.pattern linePattern)
      else if word = "_STYLES" then .ok (.patterns tableShown)
      else .error (.unknownWord word)
  | value => .error (.notText value.kind)

def setting : Word → Except LevelFault Level
  | .level known => .ok known
  | .pattern text => .error (.unknownName text)
  | .patterns shown => .error (.notLevel shown)

def severity : Word → Except LevelFault Level
  | .level known => .ok known
  | .pattern _ => .error (.incomparable "str")
  | .patterns _ => .error (.unhashable "dict")

end Word

namespace Level

/-- What lets through a record when no level is set. -/
def orDefault (level : Level) : Level := if level = 0 then warning else level

def threshold : Json → Except LevelFault Level
  | .string name => match named? name with
    | some level => .ok level.orDefault
    | none => .error (.unknownName name)
  | .int n => .ok (if n < 0 then 1 else orDefault n.toNat)
  | .bool b => .ok (orDefault (if b then 1 else 0))
  | value => .error (.notLevel value.shown)

end Level
end Passbook.Journal
