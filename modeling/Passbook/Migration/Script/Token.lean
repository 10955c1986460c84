import Passbook.Text.Padded
/-! The tokens of statements: words, names in several kinds of quotes, numbers, marks. Blanks and comments stand between them. -/
namespace Passbook.Script

inductive TokenKind where
  /-- A word of the language, in capitals in `Token.word`. -/
  | word
  | name
  | string
  | number
  | parameter
  | mark
deriving DecidableEq, Repr

structure Token where
  kind : TokenKind
  text : String
deriving DecidableEq, Repr

def words : List String := [
  "ABORT", "ACTION", "ADD", "AFTER", "ALL", "ALTER", "ALWAYS", "ANALYZE", "AND", "AS", "ASC", "ATTACH", "AUTOINCREMENT",
  "BEFORE", "BEGIN", "BETWEEN", "BY", "CASCADE", "CASE", "CAST", "CHECK", "COLLATE", "COLUMN", "COMMIT", "CONFLICT",
  "CONSTRAINT", "CREATE", "CROSS", "CURRENT", "CURRENT_DATE", "CURRENT_TIME", "CURRENT_TIMESTAMP", "DATABASE", "DEFAULT",
  "DEFERRABLE", "DEFERRED", "DELETE", "DESC", "DETACH", "DISTINCT", "DO", "DROP", "EACH", "ELSE", "END", "ESCAPE", "EXCEPT",
  "EXCLUDE", "EXCLUSIVE", "EXISTS", "EXPLAIN", "FAIL", "FIRST", "FOLLOWING", "FOR", "FOREIGN", "FROM", "FULL", "GENERATED",
  "GLOB", "GROUP", "GROUPS", "HAVING", "IF", "IGNORE", "IMMEDIATE", "IN", "INDEX", "INDEXED", "INITIALLY", "INNER", "INSERT",
  "INSTEAD", "INTERSECT", "INTO", "IS", "ISNULL", "JOIN", "KEY", "LAST", "LEFT", "LIKE", "LIMIT", "MATCH", "MATERIALIZED",
  "NATURAL", "NO", "NOT", "NOTHING", "NOTNULL", "NULL", "NULLS", "OF", "OFFSET", "ON", "OR", "ORDER", "OTHERS", "OUTER",
  "PARTITION", "PLAN", "PRAGMA", "PRECEDING", "PRIMARY", "QUERY", "RAISE", "RANGE", "RECURSIVE", "REFERENCES", "REGEXP",
  "REINDEX", "RELEASE", "RENAME", "REPLACE", "RESTRICT", "RETURNING", "RIGHT", "ROLLBACK", "ROW", "ROWS", "SAVEPOINT",
  "SELECT", "SET", "TABLE", "TEMP", "TEMPORARY", "THEN", "TIES", "TO", "TRANSACTION", "TRIGGER", "UNBOUNDED", "UNION",
  "UNIQUE", "UPDATE", "USING", "VACUUM", "VALUES", "VIEW", "VIRTUAL", "WHEN", "WHERE", "WITH", "WITHOUT"]

/-- Words that stand for names wherever they cannot stand for themselves. -/
def looseWords : List String := [
  "ABORT", "ACTION", "AFTER", "ALWAYS", "ANALYZE", "ASC", "ATTACH", "BEFORE", "BEGIN", "BY", "CASCADE", "CAST", "COLUMN",
  "CONFLICT", "CURRENT", "CURRENT_DATE", "CURRENT_TIME", "CURRENT_TIMESTAMP", "DATABASE", "DEFERRED", "DESC", "DETACH", "DO",
  "EACH", "END", "EXCLUDE", "EXCLUSIVE", "EXPLAIN", "FAIL", "FIRST", "FOLLOWING", "FOR", "GENERATED", "GLOB", "GROUPS", "IF",
  "IGNORE", "IMMEDIATE", "INITIALLY", "INSTEAD", "KEY", "LAST", "LIKE", "MATCH", "MATERIALIZED", "NO", "NULLS", "OF",
  "OFFSET", "OTHERS", "PARTITION", "PLAN", "PRAGMA", "PRECEDING", "QUERY", "RAISE", "RANGE", "RECURSIVE", "REGEXP", "REINDEX",
  "RELEASE", "RENAME", "REPLACE", "RESTRICT", "ROLLBACK", "ROW", "ROWS", "SAVEPOINT", "TEMP", "TEMPORARY", "TIES", "TRIGGER",
  "UNBOUNDED", "VACUUM", "VIEW", "VIRTUAL", "WITH", "WITHOUT"]

/-- Words that are names too where a thing is named. -/
def joiningWords : List String := ["CROSS", "FULL", "INDEXED", "INNER", "LEFT", "NATURAL", "OUTER", "RIGHT"]

def Token.word (t : Token) : String := t.text.toUpper

/-- What is read next: so many characters of blanks, of a token, or of something that is no token. -/
inductive Glimpse where
  | blank (length : Nat)
  | token (kind : TokenKind) (length : Nat)
  | unknown (length : Nat)
deriving DecidableEq, Repr

namespace Glimpse

def isBlank (c : Char) : Bool := [' ', '\t', '\n', '\x0b', '\x0c', '\x0d'].contains c

def isNameChar (c : Char) : Bool := c.isAlphanum || c == '_' || c == '$' || 128 ≤ c.toNat

private def isHex (c : Char) : Bool := (Text.hexValue? c).isSome

private def runLength (p : Char → Bool) (chars : List Char) : Nat := (chars.takeWhile p).length

/-- The length of a text in quotes, in which a doubled quote stands for itself; none if it is not closed. -/
private def quotedLength? (quote : Char) : List Char → Option Nat
  | [] => none
  | c :: d :: rest =>
    if c = quote then if d = quote then (quotedLength? quote rest).map (· + 2) else some 1
    else (quotedLength? quote (d :: rest)).map (· + 1)
  | [c] => if c = quote then some 1 else none

private def commentLength : List Char → Nat
  | [] => 0
  | '*' :: '/' :: _ => 2
  | _ :: rest => commentLength rest + 1

private def ofQuoted (kind : TokenKind) (quote : Char) (rest : List Char) : Glimpse :=
  match quotedLength? quote rest with
  | some n => token kind (n + 1)
  | none => unknown (rest.length + 1)

/-- Digits, a fraction and an exponent; characters of names that follow at once make it no number. -/
private def ofNumber (chars : List Char) : Glimpse :=
  let hex := match chars with
    | '0' :: x :: rest => if x = 'x' ∨ x = 'X' then runLength isHex rest else 0
    | _ => 0
  if hex ≠ 0 then token .number (hex + 2)
  else
    let whole := runLength Char.isDigit chars
    let fraction := match chars.drop whole with
      | '.' :: rest => runLength Char.isDigit rest + 1
      | _ => 0
    let exponent := match chars.drop (whole + fraction) with
      | e :: rest =>
        let sign := match rest with
          | '+' :: _ | '-' :: _ => 1
          | _ => 0
        let digits := runLength Char.isDigit (rest.drop sign)
        if (e = 'e' ∨ e = 'E') ∧ digits ≠ 0 then sign + digits + 1 else 0
      | [] => 0
    let length := whole + fraction + exponent
    let more := runLength isNameChar (chars.drop length)
    if more = 0 then token .number length else unknown (length + more)

/-- How many characters the name of a parameter takes, its end in parentheses included, and whether it is one. -/
private def parameterName (named : Bool) : List Char → Nat × Bool
  | [] => (0, named)
  | c :: rest =>
    if isNameChar c then
      let (n, isOne) := parameterName true rest
      (n + 1, isOne)
    else if c = '(' ∧ named then
      let inner := runLength (fun d => !isBlank d && d != ')') rest
      match rest.drop inner with
      | ')' :: _ => (inner + 2, true)
      | _ => (inner + 1, false)
    else match c, rest with
      | ':', ':' :: more =>
        let (n, isOne) := parameterName named more
        (n + 2, isOne)
      | _, _ => (0, named)

private def ofParameter (rest : List Char) : Glimpse :=
  let (n, isOne) := parameterName false rest
  if isOne then token .parameter (n + 1) else unknown (n + 1)

private def ofWord (chars : List Char) : Glimpse :=
  let text := chars.takeWhile isNameChar
  token (if words.contains (String.ofList text).toUpper then .word else .name) text.length

private def ofBytes (rest : List Char) : Glimpse :=
  let digits := runLength isHex rest
  match rest.drop digits with
  | '\'' :: _ => if digits % 2 = 0 then token .number (digits + 3) else unknown (digits + 3)
  | more =>
    let inner := runLength (· != '\'') more
    unknown (digits + inner + 2 + if (more.drop inner).isEmpty then 0 else 1)

def ofChars : List Char → Glimpse
  | [] => blank 0
  | '-' :: '-' :: rest => blank (runLength (· != '\n') rest + 2)
  | '-' :: '>' :: '>' :: _ => token .mark 3
  | '-' :: '>' :: _ => token .mark 2
  | '/' :: '*' :: c :: rest => blank (commentLength (c :: rest) + 2)
  | '=' :: '=' :: _ | '<' :: '=' :: _ | '<' :: '>' :: _ | '<' :: '<' :: _ | '>' :: '=' :: _ | '>' :: '>' :: _
  | '!' :: '=' :: _ | '|' :: '|' :: _ => token .mark 2
  | 'x' :: '\'' :: rest | 'X' :: '\'' :: rest => ofBytes rest
  | '\'' :: rest => ofQuoted .string '\'' rest
  | '"' :: rest => ofQuoted .name '"' rest
  | '\x60' :: rest => ofQuoted .name '\x60' rest
  | '[' :: rest =>
    let inner := runLength (· != ']') rest
    if inner = rest.length then unknown (inner + 1) else token .name (inner + 2)
  | '.' :: d :: rest => if d.isDigit then ofNumber ('.' :: d :: rest) else token .mark 1
  | c :: rest =>
    if c ≠ '\x0b' ∧ isBlank c ∨ c.toNat = 0xfeff then blank (runLength isBlank rest + 1)
    else if c.isDigit then ofNumber (c :: rest)
    else if c = '?' then token .parameter (runLength Char.isDigit rest + 1)
    else if ['$', '@', '#', ':'].contains c then ofParameter rest
    else if isNameChar c then ofWord (c :: rest)
    else if "-/=<>|()+*%.,;&~".toList.contains c then token .mark 1
    else unknown 1

end Glimpse

/-- A token with the text that follows it, or a piece of text that is no token, at which reading ends. -/
inductive Lexeme where
  | token (token : Token) (rest : List Char)
  | unknown (text : String)
deriving DecidableEq, Repr

namespace Lexeme

private def read : Nat → List Char → List Lexeme
  | fuel + 1, c :: chars =>
    let text (length : Nat) : String := String.ofList ((c :: chars).take length)
    match Glimpse.ofChars (c :: chars) with
    | .blank length => read fuel ((c :: chars).drop length)
    | .token kind length =>
      let rest := (c :: chars).drop length
      .token ⟨kind, text length⟩ rest :: read fuel rest
    | .unknown length => [.unknown (text length)]
  | _, _ => []

/-- The lexemes of a text; each takes a character at least. -/
def ofText (text : String) : List Lexeme := read text.length text.toList

end Lexeme
end Passbook.Script
