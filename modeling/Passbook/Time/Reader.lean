import Passbook.Text.Utf8
import Passbook.Text.Whole
import Passbook.Time.Instant
/-! ISO 8601 text read into a clock reading. A date is written in months and days or in weeks, with hyphens or without; one
character of any kind parts it from the time, which may be cut short after any of its parts, and carries a
fraction of any length. A time and a zone may be closed by a NUL. The text is read as UTF-8 bytes, so a separator may
take several of them; half of a UTF-16 pair can be nothing but a separator. -/
namespace Passbook.Time

def readDigits (count : Nat) (chars : List Char) : Option (Nat × List Char) :=
  let head := chars.take count
  if head.length = count ∧ head.all Text.isDigit then some (Text.ofDigits head, chars.drop count) else none

/-- Year, month and day as written, not yet checked against the calendar. -/
structure WrittenDate where
  year : Nat
  month : Nat
  day : Nat

structure WrittenTime where
  hour : Nat
  minute : Nat
  second : Nat
  micro : Nat
  /-- Something follows that is no part of the time. -/
  leftover : Bool

def isAt (chars : List Char) (i : Nat) (c : Char) : Bool := chars[i]? == some c

/-- Where the date ends. Only a week without hyphens leaves a choice: an even number of characters before the first
that is no digit belongs to a week without weekday. -/
def dateWidth? (chars : List Char) : Option Nat :=
  if chars.length = 7 then some 7
  else if isAt chars 4 '-' then
    if isAt chars 5 'W' then
      if isAt chars 8 '-' then
        if chars.length = 9 then none
        else if (chars[10]?.map Text.isDigit).getD false then some 8
        else some 10
      else some 8
    else some 10
  else if isAt chars 4 'W' then
    let stop := 7 + ((chars.drop 7).takeWhile Text.isDigit).length
    some (if stop < 9 then stop else if stop % 2 = 0 then 7 else 8)
  else some 8

/-- A week of year 0 is well formed but lies in no month of the calendar. -/
def readWeekDate (year : Nat) (hyphens : Bool) (width : Nat) (chars : List Char) : Option WrittenDate := do
  let (week, rest) ← readDigits 2 chars
  let used := 4 + (if hyphens then 1 else 0) + 3
  let day ← if used < width then
      if hyphens then
        if rest.head? = some '-' then (·.1) <$> readDigits 1 (rest.drop 1) else none
      else (·.1) <$> readDigits 1 rest
    else some 1
  let date ← dateOfWeek? year week day
  return if year = 0 then ⟨1, 0, 1⟩ else ⟨date.year, date.month, date.day⟩

def readDate (chars : List Char) (width : Nat) : Option WrittenDate := do
  let (year, rest) ← readDigits 4 chars
  let hyphens := rest.head? = some '-'
  let rest := if hyphens then rest.drop 1 else rest
  if rest.head? = some 'W' then readWeekDate year hyphens width (rest.drop 1)
  else
    let (month, rest) ← readDigits 2 rest
    if hyphens ∧ rest.head? ≠ some '-' then none
    else
      let (day, _) ← readDigits 2 (if hyphens then rest.drop 1 else rest)
      return ⟨year, month, day⟩

def nul : Char := Char.ofNat 0

/-- A fraction: six digits count, further ones are passed over, and so is what follows a NUL. -/
def readFraction (t : WrittenTime) (chars : List Char) : Option WrittenTime := do
  let count := min chars.length 6
  let (n, rest) ← readDigits count chars
  return { t with micro := n * Nat.pow 10 (6 - count), leftover := ((rest.dropWhile Text.isDigit).head?.map (· != nul)).getD false }

def setPart (t : WrittenTime) (i n : Nat) : WrittenTime :=
  if i = 0 then { t with hour := n } else if i = 1 then { t with minute := n } else { t with second := n }

/-- Hours, minutes and seconds from part `i` on, `left` parts being allowed; colons stand between all parts or none. -/
def readParts (t : WrittenTime) (i : Nat) (colons : Bool) : Nat → List Char → Option WrittenTime
  | 0, chars => readFraction t chars
  | left + 1, chars => do
    let (n, rest) ← readDigits 2 chars
    let t := setPart t i n
    match rest with
    | [] => return t
    | [c] => return { t with leftover := c != nul }
    | c :: next =>
      let colons := if i = 0 then c == ':' else colons
      if colons && c == ':' then readParts t (i + 1) colons left next
      else if c = '.' ∨ c = ',' then readFraction t next
      else if !colons then readParts t (i + 1) colons left rest
      else none

def readTimeOfDay (chars : List Char) : Option WrittenTime := readParts ⟨0, 0, 0, 0, false⟩ 0 false 3 chars

def startsZone (c : Char) : Bool := c == '+' || c == '-' || c == 'Z'

def readTime (chars : List Char) : Option (WrittenTime × Option (Int × Int)) := do
  let t ← readTimeOfDay (chars.takeWhile fun c => !startsZone c)
  match chars.dropWhile fun c => !startsZone c with
  | [] => if t.leftover then none else return (t, none)
  | 'Z' :: rest => if (rest.head?.map (· == nul)).getD true then return (t, some (0, 0)) else none
  | sign :: rest =>
    let zone ← readTimeOfDay rest
    if zone.leftover then none
    else
      let seconds : Int := (zone.hour * 60 + zone.minute) * 60 + zone.second
      let micro : Int := zone.micro
      return (t, some (if sign = '-' then (-seconds, -micro) else (seconds, micro)))

def separatorWidth : List Char → Nat
  | [] => 1
  | c :: _ => if c.toNat < 0x80 then 1 else if c.toNat / 16 = 14 then 3 else if c.toNat / 16 = 15 then 4 else 2

def readParted (chars : List Char) : Option (WrittenDate × WrittenTime × Option (Int × Int)) := do
  let width ← dateWidth? chars
  let date ← readDate chars width
  let after := chars.drop width
  if after.isEmpty then return (date, ⟨0, 0, 0, 0, false⟩, none)
  else
    let (time, zone) ← readTime (after.drop (separatorWidth after))
    return (date, time, zone)

/-- An offset of zero whole seconds is that of universal time. -/
def offsetOf : Option (Int × Int) → Except Fault (Option Offset)
  | none => .ok none
  | some (seconds, micros) =>
    if seconds = 0 then .ok (some Offset.utc) else some <$> Offset.ofSeconds? seconds micros

def separatorPlaces : List Nat := [7, 8, 10]

def plainSeparator (codes : List Nat) : List Nat :=
  match separatorPlaces.find? fun i => (codes[i]?.map Text.isHalf).getD false with
  | some i => codes.set i 'T'.toNat
  | none => codes

def Reading.ofText (text : String) : Except Fault Reading := do
  let codes := plainSeparator (Text.codes text)
  if codes.length < 7 ∨ codes.any Text.isHalf then throw (.malformed text)
  match readParted ((codes.flatMap Text.bytesOfCode).map Char.ofNat) with
  | none => throw (.malformed text)
  | some (d, t, zone) =>
    let offset ← offsetOf zone
    let wall ← Reading.wallOf d.year d.month d.day t.hour t.minute t.second t.micro
    return ⟨wall, offset⟩

end Passbook.Time
