import Passbook.Decimal.Nearest
import Passbook.Json.Value
import Passbook.Text.Padded
import Passbook.Text.Utf16
import Passbook.Text.Whole
/-! JSON text read into a value. A text that is no JSON is refused with the position of the first character that
no value can have there; a string that never ends is refused at its opening quote. The words `NaN`, `Infinity`
and `-Infinity` are read as numbers. Of two members of one name the later gives the value and the earlier the place. -/
namespace Passbook.Json

inductive ReadFault where
  | unexpected (position : Nat)
  | numeralTooLong
  /-- Arrays and objects inside one another, more than can be followed. -/
  | tooDeep
deriving DecidableEq, Repr

structure Cursor where
  rest : List Char
  position : Nat

namespace Cursor

def skip (c : Cursor) (count : Nat) : Cursor := ⟨c.rest.drop count, c.position + count⟩

def isBlank (c : Char) : Bool := c == ' ' || c == '\t' || c == '\n' || c == '\r'

def skipBlanks (c : Cursor) : Cursor := c.skip (c.rest.takeWhile isBlank).length

def fail {α : Type} (c : Cursor) : Except ReadFault α := .error (.unexpected c.position)

def expect (c : Cursor) (char : Char) : Except ReadFault Cursor :=
  if c.rest.head? = some char then .ok (c.skip 1) else c.fail

end Cursor

private def hexValue? (chars : List Char) : Option Nat :=
  chars.foldl (fun n c => do return 16 * (← n) + (← Text.hexValue? c)) (some 0)

private def simpleEscape? : Char → Option Char
  | '"' => some '"'
  | '\\' => some '\\'
  | '/' => some '/'
  | 'b' => some (Char.ofNat 8)
  | 'f' => some (Char.ofNat 12)
  | 'n' => some '\n'
  | 'r' => some '\r'
  | 't' => some '\t'
  | _ => none

/-- A code of four hexadecimal digits, not at the very end of the text. -/
private def readUnit (c : Cursor) : Except ReadFault Nat :=
  if c.rest.length ≤ 4 then .error (.unexpected (c.position - 1))
  else match hexValue? (c.rest.take 4) with
    | some n => .ok n
    | none => .error (.unexpected (c.position - 1))

private def readStringFrom (start : Nat) (read : List Char) : Nat → Cursor → Except ReadFault (String × Cursor)
  | 0, _ => .error (.unexpected start)
  | fuel + 1, c => match c.rest with
    | [] => .error (.unexpected start)
    | '"' :: _ => .ok (String.ofList read.reverse, c.skip 1)
    | '\\' :: [] => .error (.unexpected start)
    | '\\' :: 'u' :: _ => do
      let high ← readUnit (c.skip 2)
      let next := c.skip 6
      if Text.isHighHalf high ∧ next.rest.take 2 = ['\\', 'u'] ∧ 6 < next.rest.length then
        match hexValue? ((next.rest.drop 2).take 4) with
        | none => .error (.unexpected (next.position + 1))
        | some low =>
          if Text.isLowHalf low then
            readStringFrom start ((Text.charsOfCode (Text.joinHalves high low)).reverse ++ read) fuel (next.skip 6)
          else readStringFrom start ((Text.charsOfCode high).reverse ++ read) fuel next
      else readStringFrom start ((Text.charsOfCode high).reverse ++ read) fuel next
    | '\\' :: e :: _ => match simpleEscape? e with
      | some char => readStringFrom start (char :: read) fuel (c.skip 2)
      | none => c.fail
    | char :: _ => if char.toNat < 0x20 then c.fail else readStringFrom start (char :: read) fuel (c.skip 1)

private def readString (c : Cursor) : Except ReadFault (String × Cursor) :=
  readStringFrom (c.position - 1) [] (c.rest.length + 1) c

private def readNumber (c : Cursor) : Except ReadFault (Json × Cursor) :=
  let negative := c.rest.head? = some '-'
  let unsigned := if negative then c.skip 1 else c
  let whole := match unsigned.rest with
    | '0' :: _ => ['0']
    | rest => rest.takeWhile Text.isDigit
  if whole.isEmpty then c.fail
  else
    let next := unsigned.skip whole.length
    let fraction := match next.rest with
      | '.' :: rest => rest.takeWhile Text.isDigit
      | _ => []
    let next := if fraction.isEmpty then next else next.skip (1 + fraction.length)
    let (power, next, powered) : Int × Cursor × Bool := match next.rest with
      | e :: rest =>
        if e = 'e' ∨ e = 'E' then
          let (minus, width, rest) := match rest with
            | '-' :: rest => (true, 2, rest)
            | '+' :: rest => (false, 2, rest)
            | rest => (false, 1, rest)
          let digits := rest.takeWhile Text.isDigit
          let n : Int := Text.ofDigits digits
          if digits.isEmpty then (0, next, false) else (if minus then -n else n, next.skip (width + digits.length), true)
        else (0, next, false)
      | [] => (0, next, false)
    if fraction.isEmpty && !powered then
      if Text.longestNumeral < whole.length then .error .numeralTooLong
      else
        let n : Int := Text.ofDigits whole
        .ok (.int (if negative then -n else n), next)
    else .ok (.float (Decimal.nearest negative (Text.ofDigits (whole ++ fraction)) (power - fraction.length)), next)

def deepest : Nat := 965

private def putMember (members : List (String × Json)) (member : String × Json) : List (String × Json) :=
  if members.any fun m => m.1 == member.1 then
    members.map fun m => if m.1 == member.1 then member else m
  else members ++ [member]

private def distinct (members : List (String × Json)) : List (String × Json) := members.foldl putMember []

private def startsWith (chars : List Char) (word : String) : Bool := word.toList.isPrefixOf chars

mutual

/-- A value inside which arrays and objects may go `depth` deeper. -/
private def readValue (depth : Nat) : Nat → Cursor → Except ReadFault (Json × Cursor)
  | 0, c => c.fail
  | fuel + 1, c => match c.rest with
    | [] => c.fail
    | '"' :: _ => do
      let (s, next) ← readString (c.skip 1)
      return (.string s, next)
    | '\x7b' :: _ => do
      if depth = 0 then throw .tooDeep
      let inner := (c.skip 1).skipBlanks
      if inner.rest.head? = some '\x7d' then return (.object [], inner.skip 1)
      let (members, next) ← readMembers (depth - 1) fuel inner
      return (.object (distinct members), next)
    | '[' :: _ => do
      if depth = 0 then throw .tooDeep
      let inner := (c.skip 1).skipBlanks
      if inner.rest.head? = some ']' then return (.array [], inner.skip 1)
      let (items, next) ← readItems (depth - 1) fuel inner
      return (.array items, next)
    | rest =>
      if startsWith rest "null" then .ok (.null, c.skip 4)
      else if startsWith rest "true" then .ok (.bool true, c.skip 4)
      else if startsWith rest "false" then .ok (.bool false, c.skip 5)
      else if startsWith rest "NaN" then .ok (.float (0.0 / 0.0), c.skip 3)
      else if startsWith rest "Infinity" then .ok (.float (1.0 / 0.0), c.skip 8)
      else if startsWith rest "-Infinity" then .ok (.float (-1.0 / 0.0), c.skip 9)
      else readNumber c

private def readItems (depth : Nat) : Nat → Cursor → Except ReadFault (List Json × Cursor)
  | 0, c => c.fail
  | fuel + 1, c => do
    let (item, next) ← readValue depth fuel c
    let next := next.skipBlanks
    if next.rest.head? = some ']' then return ([item], next.skip 1)
    let next ← next.expect ','
    let (items, last) ← readItems depth fuel next.skipBlanks
    return (item :: items, last)

private def readMembers (depth : Nat) : Nat → Cursor → Except ReadFault (List (String × Json) × Cursor)
  | 0, c => c.fail
  | fuel + 1, c => do
    let (name, next) ← readString (← c.expect '"')
    let next ← next.skipBlanks.expect ':'
    let (value, next) ← readValue depth fuel next.skipBlanks
    let next := next.skipBlanks
    if next.rest.head? = some '\x7d' then return ([(name, value)], next.skip 1)
    let next ← next.expect ','
    let (members, last) ← readMembers depth fuel next.skipBlanks
    return ((name, value) :: members, last)

end

private def ReadFault.inCodes (chars : List Char) : ReadFault → ReadFault
  | .unexpected position => .unexpected (Text.codesOf (chars.take position)).length
  | fault => fault

def read (text : String) : Except ReadFault Json :=
  let chars := text.toList
  Except.mapError (ReadFault.inCodes chars) do
    let (value, next) ← readValue deepest (2 * chars.length + 2) (Cursor.mk chars 0).skipBlanks
    let next := next.skipBlanks
    if next.rest.isEmpty then return value else next.fail

end Passbook.Json
