import Passbook.Cache
import Passbook.Environment
import Passbook.Http.Pattern
import Passbook.Journal.Record
import Passbook.Notice
import Passbook.Text.Charset
import Passbook.Text.Utf8
import Passbook.Time.Month
/-! Everything that can go wrong, by cause, with the text each cause is reported by. -/
namespace Passbook

inductive Constraint where
  | unique
  | foreignKey
  | check
  | notNull
  | outOfRange
  | unknown
deriving DecidableEq, Repr

def Constraint.name : Constraint → String
  | .unique => "unique"
  | .foreignKey => "foreign_key"
  | .check => "check"
  | .notNull => "not_null"
  | .outOfRange => "out_of_range"
  | .unknown => "unknown"

structure Violation where
  kind : Constraint
  message : String
  /-- The rule or column named by the store, if it names one. -/
  constraint : Option String
deriving DecidableEq, Repr

namespace Violation

def unique (column : String) : Violation := ⟨.unique, "UNIQUE constraint failed: " ++ column, some column⟩

def notNull (column : String) : Violation := ⟨.notNull, "NOT NULL constraint failed: " ++ column, some column⟩

def check (rule : String) : Violation := ⟨.check, "CHECK constraint failed: " ++ rule, some rule⟩

def foreignKey : Violation := ⟨.foreignKey, "FOREIGN KEY constraint failed", none⟩

def datatype : Violation := ⟨.unknown, "datatype mismatch", none⟩

def appendOnly : Violation := ⟨.unknown, "transaction log is append-only", none⟩

end Violation

inductive Refusal where
  | violated (violation : Violation)
  | missingTable (name : String)
  | existingTable (name : String)
  | missingTrigger (name : String)
  | existingTrigger (name : String)
  /-- A bound integer does not fit 64 bits. -/
  | oversizedInteger
  | sumOverflow
  /-- An argument of a kind that has no cell. -/
  | unbindable (position : Nat) (kind : String)
  /-- A text, bound or to be run, that has no encoding. -/
  | unencodable (fault : Text.Unencodable)
  /-- A token that cannot stand where it does. -/
  | nonsense (word : String)
  | unfinished
  /-- A piece of text that is no token. -/
  | unrecognized (text : String)
  | zeroInStatement
  | severalStatements
  | reservedName (name : String)
  | undroppable (name : String)
  | unusableTable (name : String)
  | missingObject (kind name : String)
  | unknownDatabase (name : String)
  | unknownOption (name : String)
  | missingColumn (column : String)
  | noColumn (table column : String)
deriving DecidableEq, Repr

def Refusal.message : Refusal → String
  | .violated v => v.message
  | .missingTable name => "no such table: " ++ name
  | .existingTable name => s!"table {name} already exists"
  | .missingTrigger name => "no such trigger: " ++ name
  | .existingTrigger name => s!"trigger {name} already exists"
  | .oversizedInteger => "Python int too large to convert to SQLite INTEGER"
  | .sumOverflow => "integer overflow"
  | .unbindable position kind => s!"Error binding parameter {position}: type '{kind}' is not supported"
  | .unencodable fault => fault.message
  | .nonsense word => s!"near \"{word}\": syntax error"
  | .unfinished => "incomplete input"
  | .unrecognized text => s!"unrecognized token: \"{text}\""
  | .zeroInStatement => "the query contains a null character"
  | .severalStatements => "You can only execute one statement at a time."
  | .reservedName name => "object name reserved for internal use: " ++ name
  | .undroppable name => s!"table {name} may not be dropped"
  | .unusableTable name => s!"invalid arguments to {name} constructor"
  | .missingObject kind name => s!"no such {kind}: {name}"
  | .unknownDatabase name => "unknown database " ++ name
  | .unknownOption name => "unknown table option: " ++ name
  | .missingColumn column => "no such column: " ++ column
  | .noColumn table column => s!"table {table} has no column named {column}"

inductive StoreError where
  | failed (operation message : String)
  | violated (violation : Violation)
  | unencodable (fault : Text.Unencodable)
deriving DecidableEq, Repr

def StoreError.message : StoreError → String
  | .failed operation message => operation ++ ": " ++ message
  | .violated v => v.message
  | .unencodable fault => fault.message

/-- A broken rule or a text without an encoding is reported as such, anything else under the operation's name. -/
def Refusal.raise (operation : String) : Refusal → StoreError
  | .violated v => .violated v
  | .unencodable fault => .unencodable fault
  | r => .failed operation r.message

inductive MigrationStage where
  | applying
  | rollingBack
  | noWayBack
deriving DecidableEq, Repr

inductive ClosedUse where
  | statement
  | commit
  | rollback
deriving DecidableEq, Repr

inductive ServerErrorKind where
  | integrity
  | pool
  | other
deriving DecidableEq, Repr

structure ServerError where
  kind : ServerErrorKind
  message : String
  code : Option String
  constraint : Option String
deriving DecidableEq, Repr

inductive AddressFault where
  | unsupported (url : String)
  | unopened
  | noClient
  | unencodable (fault : Text.Unencodable)
  /-- A path that holds the character zero. -/
  | zeroInPath
  | unknownOption (name : String)
  | repeatedOption (name : String)
deriving DecidableEq, Repr

def AddressFault.message : AddressFault → String
  | .unsupported url => "Unsupported database URL: " ++ url
  | .unopened => "unable to open database file"
  | .noClient => "psycopg2 is required for PostgreSQL storage. Install with: pip install psycopg2-binary"
  | .unencodable fault => fault.message
  | .zeroInPath => "embedded null byte"
  | .unknownOption name => s!"create_storage() got an unexpected keyword argument '{name}'"
  | .repeatedOption name => s!"create_storage() got multiple values for argument '{name}'"

inductive Unsuited where
  | negatedText
  /-- Text that would have to come before or after a number. -/
  | textBeside (isReal : Bool)
  | infiniteTotal
deriving DecidableEq, Repr

def Unsuited.message : Unsuited → String
  | .negatedText => "bad operand type for unary -: 'str'"
  | .textBeside isReal => "'<' not supported between instances of 'str' and '" ++ (if isReal then "float'" else "int'")
  | .infiniteTotal => "cannot convert float infinity to integer"

inductive Failure where
  | ledger (error : LedgerError)
  | violation (violation : Violation)
  | time (fault : Time.Fault)
  | month (given : Int)
  /-- A word that is not among those of a set. -/
  | notAmong (word set : String)
  | migration (stage : MigrationStage) (label : String) (cause : Option StoreError)
  | closed (use : ClosedUse)
  | server (error : ServerError)
  /-- An error that no store has told. -/
  | foreign (message : String)
  /-- A row that has to be there is not. -/
  | missingRow
  | missingColumn (name : String)
  /-- A value taken for a time, of a kind that is none. -/
  | timeless (kind : String)
  | address (fault : AddressFault)
  | level (fault : Journal.LevelFault)
  | record (fault : Journal.RecordFault)
  | notice (fault : NoticeFault)
  | mount (fault : Http.MountFault)
  /-- An address whose password cannot be told apart. -/
  | unmaskable
  /-- A text to be stored or sent that has no encoding. -/
  | unencodable (fault : Text.Unencodable)
  /-- Bytes to be told as text that are none. -/
  | undecodable (fault : Text.Undecodable)
  | endlessNumeral (fault : Http.EndlessNumeral)
  /-- A number to be sent that is infinite or undefined. -/
  | notFinite
  | unsuited (use : Unsuited)
  | cache (fault : CacheFault)
  /-- A sum or a difference of times that is none. -/
  | outOfReach
  | variable (fault : VariableFault)
  /-- Fields with values that cannot be used. -/
  | fields (flaws : List Form.Flaw)
  /-- A line that goes on after a value. -/
  | extraData (position : Nat)
  | aborted (message : String)
deriving DecidableEq, Repr

namespace Failure

def ofStore : StoreError → Failure
  | .failed operation message => .ledger (.storage operation message)
  | .violated v => .violation v
  | .unencodable fault => .unencodable fault

def ofMonth : Time.MonthFault → Failure
  | .month given => .month given
  | .calendar fault => .time fault

def store? : Failure → Option StoreError
  | .ledger (.storage operation message) => some (.failed operation message)
  | .violation v => some (.violated v)
  | .unencodable fault => some (.unencodable fault)
  | _ => none

def message : Failure → String
  | .ledger error => error.message
  | .violation v => v.message
  | .time fault => fault.message
  | .month given => (Time.MonthFault.month given).message
  | .notAmong word set => Text.quoted word ++ " is not a valid " ++ set
  | .migration .applying label _ => "Migration failed: " ++ label
  | .migration .rollingBack label _ => "Rollback failed: " ++ label
  | .migration .noWayBack label _ => "No rollback SQL for " ++ label
  | .closed .statement => "Cannot operate on a closed database."
  | .closed .commit => "'NoneType' object has no attribute 'execute'"
  | .closed .rollback => "'NoneType' object has no attribute 'in_transaction'"
  | .server e => e.message
  | .foreign message => message
  | .missingRow => "'NoneType' object is not subscriptable"
  | .missingColumn name => Text.quoted name
  | .timeless kind => s!"'{kind}' object has no attribute 'tzinfo'"
  | .address fault => fault.message
  | .level fault => fault.message
  | .record fault => fault.message
  | .notice fault => fault.message
  | .mount fault => fault.message
  | .unencodable fault => fault.message
  | .undecodable fault => fault.message
  | .endlessNumeral fault => fault.message
  | .notFinite => "Out of range float values are not JSON compliant"
  | .unmaskable => "not enough values to unpack (expected 2, got 1)"
  | .unsuited use => use.message
  | .cache fault => fault.message
  | .outOfReach => "int too large to convert to float"
  | .variable fault => fault.message
  | .fields flaws => Form.Flaw.report "PaymentConfig" flaws
  | .extraData position => s!"Extra data: line 1 column {position + 1} (char {position})"
  | .aborted message => message

def textOf (bytes : List UInt8) : Except Failure String := (Text.ofUtf8 (bytes.map UInt8.toNat)).mapError .undecodable

end Failure
end Passbook
