import Passbook.Migration.Basic
import Passbook.Migration.Script.Grammar
import Passbook.Migration.Script.Virtual
import Passbook.Text.Uppercase
/-! Migration statements in plain text, for schemas that are just a set of named tables: a statement makes a table or drops
one. Statements of other forms change nothing. Names agree whatever their case. -/
namespace Passbook.Script

structure Tables where
  names : List String
deriving DecidableEq, Repr

instance : Keyed Tables := ⟨fun _ => false⟩

structure TableName where
  database : Option String
  written : String
  name : String
deriving DecidableEq, Repr

namespace TableName

private def unquotedChars (quote : Char) : List Char → List Char
  | c :: d :: rest => if c = quote ∧ d = quote then c :: unquotedChars quote rest else c :: unquotedChars quote (d :: rest)
  | chars => chars

def unquoted (text : String) : String :=
  let quotes : List (Char × Char) := [('"', '"'), ('\'', '\''), ('\x60', '\x60'), ('[', ']')]
  match text.toList with
  | [] => ""
  | c :: rest => match quotes.find? fun pair => pair.1 = c with
    | some (_, quote) => String.ofList (unquotedChars quote rest.dropLast)
    | none => text

def ofText (text : String) : TableName := ⟨none, text, unquoted text⟩

/-- A name, maybe after that of its database, and the tokens that follow. -/
def ofTokens? : List Token → Option (TableName × List Token)
  | first :: ⟨.mark, "."⟩ :: second :: rest => some ({ ofText second.text with database := some (unquoted first.text) }, rest)
  | first :: rest => some (ofText first.text, rest)
  | [] => none

def full (t : TableName) : String :=
  match t.database with
  | some database => database ++ "." ++ t.name
  | none => t.name

end TableName

/-- What a statement says. A flaw is found only after the table has been looked up. -/
inductive Command where
  | nothing
  | create (table : TableName) (mayExist : Bool) (flaw : Option Refusal)
  | drop (table : TableName) (mayLack : Bool) (flaw : Option Refusal)
  | refused (refusal : Refusal)
deriving DecidableEq, Repr

/-- How a statement ends: with what is left after it, or at something that cannot stand there. -/
inductive Ending where
  | complete (rest : List Char)
  | stopped (refusal : Refusal)
deriving DecidableEq, Repr

def follow (shape : Shape) : List Lexeme → List Token × Ending
  | [] => ([], if shape.isDone then .complete [] else .stopped .unfinished)
  | .unknown text :: _ => ([], .stopped (.unrecognized text))
  | .token t rest :: more =>
    if t = ⟨.mark, ";"⟩ then ([], if shape.isDone then .complete rest else .stopped (.nonsense ";"))
    else match shape.next t with
      | .never => ([], .stopped (.nonsense t.text))
      | shape =>
        let (tokens, ending) := follow shape more
        (t :: tokens, ending)

private def hasMore : Nat → List Char → Bool
  | fuel + 1, c :: rest => match Glimpse.ofChars (c :: rest) with
    | .blank length => hasMore fuel ((c :: rest).drop length)
    | _ => true
  | _, _ => false

/-- What is wrong with the end of a statement; only one can be given. -/
private def Ending.flaw? : Ending → Option Refusal
  | .complete rest => if hasMore rest.length rest then some .severalStatements else none
  | .stopped refusal => some refusal

private def startsWith (words : List String) (tokens : List Token) : Option (List Token) :=
  if (tokens.take words.length).map Token.word = words then some (tokens.drop words.length) else none

private def strip (words : List String) (tokens : List Token) : Bool × List Token :=
  match startsWith words tokens with
  | some rest => (true, rest)
  | none => (false, tokens)

private def unknownOption? (tokens : List Token) : Option Refusal :=
  match (tokens.reverse.takeWhile (· ≠ ⟨.mark, ")"⟩)).reverse with
  | [] => none
  | first :: rest =>
    let isRowless := first.word = "WITHOUT" && !rest.isEmpty
    let name := if isRowless then rest.headD first else first
    if name.word = (if isRowless then "ROWID" else "STRICT") then none else some (.unknownOption name.text)

private def isTemporary (tokens : List Token) : Bool :=
  (startsWith ["CREATE", "TEMP"] tokens).isSome || (startsWith ["CREATE", "TEMPORARY"] tokens).isSome

/-- What stands after the words that make a table, if a name and one more token do. -/
private def creation? (tokens : List Token) (ending : Ending) : Option Command := do
  let rest ← startsWith ["CREATE", "TABLE"] tokens
  let (mayExist, rest) := strip ["IF", "NOT", "EXISTS"] rest
  let (table, rest) ← TableName.ofTokens? rest
  let opening ← rest.head?
  let option := if opening = ⟨.mark, "("⟩ then unknownOption? rest else none
  return .create table mayExist (match ending with
    | .stopped refusal => some refusal
    | .complete _ => option.or ending.flaw?)

private def removal? (tokens : List Token) (ending : Ending) : Option Command := do
  let .complete _ := ending | none
  let kind :: rest ← startsWith ["DROP"] tokens | none
  let (mayLack, rest) := strip ["IF", "EXISTS"] rest
  let (table, _) ← TableName.ofTokens? rest
  return match kind.word with
    | "TABLE" => .drop table mayLack ending.flaw?
    | _ => if mayLack then ending.flaw?.elim .nothing .refused
      else .refused (.missingObject (Text.asciiLowercase kind.text) table.full)

def parse (text : String) : Command :=
  if let some fault := Text.unencodable? .utf8 text then .refused (.unencodable fault)
  else if text.toList.contains '\x00' then .refused .zeroInStatement
  else
    let isSemicolon : Lexeme → Bool
      | .token t _ => t = ⟨.mark, ";"⟩
      | .unknown _ => false
    let lexemes := (Lexeme.ofText text).dropWhile isSemicolon
    if lexemes.isEmpty then .nothing
    else
      let (tokens, ending) := follow Shape.statement lexemes
      if isTemporary tokens then ending.flaw?.elim .nothing .refused
      else ((creation? tokens ending).or (removal? tokens ending)).getD (ending.flaw?.elim .nothing .refused)

private def agrees (name other : String) : Bool := Text.asciiLowercase name == Text.asciiLowercase other

private def isReserved (name : String) : Bool := "sqlite_".toList.isPrefixOf (Text.asciiLowercase name).toList

/-- The tables that the store keeps for itself, by their names and by that which they are told by. -/
private def ownTables : List (String × String) := [
  ("sqlite_master", "sqlite_master"), ("sqlite_schema", "sqlite_master"),
  ("sqlite_temp_master", "sqlite_temp_master"), ("sqlite_temp_schema", "sqlite_temp_master")]

private def isMain (table : TableName) : Bool := table.database.all (agrees "main")

private def ended (flaw : Option Refusal) (c : Catalog Tables) : Except Refusal (Unit × Catalog Tables) :=
  match flaw with
  | some refusal => .error refusal
  | none => .ok ((), c)

private def createTable (table : TableName) (mayExist : Bool) (flaw : Option Refusal) (c : Catalog Tables) :
    Except Refusal (Unit × Catalog Tables) :=
  let isRecord := agrees recordName table.name
  let isTaken := if isRecord then c.record ≠ .dropped else c.schema.names.any (agrees table.name)
  if !isMain table then .error (.unknownDatabase (table.database.getD ""))
  else if isReserved table.name then .error (.reservedName table.name)
  else if isTaken then if mayExist then ended flaw c else .error (.existingTable table.written)
  else if isRecord then ended flaw { c with record := .replaced }
  else ended flaw { c with schema := ⟨c.schema.names ++ [table.name]⟩ }

private def dropTable (table : TableName) (mayLack : Bool) (flaw : Option Refusal) (c : Catalog Tables) :
    Except Refusal (Unit × Catalog Tables) :=
  match ownTables.find? fun own => agrees own.1 table.name with
  | some (_, told) => .error (.undroppable told)
  | none =>
    if isMain table && agrees recordName table.name && c.record ≠ .dropped then ended flaw { c with record := .dropped }
    else if isMain table && c.schema.names.any (agrees table.name) then
      ended flaw { c with schema := ⟨c.schema.names.filter fun name => !agrees table.name name⟩ }
    else match virtualName? table.name with
      | some told => .error (.undroppable told)
      | none =>
        if mayLack then ended flaw c
        else if isUnusable table.name then .error (.unusableTable "fts4aux")
        else .error (.missingTable table.full)

def run (command : Command) : Statement (Catalog Tables) Unit := fun _ c =>
  match command with
  | .nothing => .ok ((), c)
  | .create table mayExist flaw => createTable table mayExist flaw c
  | .drop table mayLack flaw => dropTable table mayLack flaw c
  | .refused refusal => .error refusal

instance : Runs String Tables := ⟨fun text => run (parse text)⟩

end Passbook.Script
