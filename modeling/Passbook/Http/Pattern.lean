import Passbook.Decimal.Nearest
import Passbook.Form.Field
import Passbook.Text.Padded
/-! Patterns of paths: fixed text with holes in braces. A hole has a name and may tell after a colon what it takes;
without that it takes anything but a slash. -/
namespace Passbook.Http

inductive Hole where
  | word
  | path
  | whole
  | decimal
  | identifier
deriving DecidableEq, Repr

inductive MountFault where
  | unrooted
  | unknownHole (kind : String)
  | repeatedNames (names : List String) (path : String)
  /-- A hole has the name under which an endpoint takes its body. -/
  | bodyInPath
deriving DecidableEq, Repr

def MountFault.message : MountFault → String
  | .unrooted => "A path prefix must start with '/'"
  | .unknownHole kind => "Unknown path convertor '" ++ kind ++ "'"
  | .repeatedNames names path =>
    "Duplicated param name" ++ (if names.length = 1 then " " else "s ") ++ ", ".intercalate names ++ " at path " ++ path
  | .bodyInPath => "Path params must be of one of the supported types"

namespace Hole

def named? : String → Option Hole
  | "str" => some .word
  | "path" => some .path
  | "int" => some .whole
  | "float" => some .decimal
  | "uuid" => some .identifier
  | _ => none

private def isHex (c : Char) : Bool := (Text.hexValue? c).isSome

/-- How much of the text groups of hexadecimal digits take; a hyphen may stand between two groups. -/
private def hexGroups? (taken : Nat) : List Nat → List Char → Option Nat
  | [], _ => some taken
  | width :: widths, chars =>
    let parted := taken ≠ 0 ∧ chars.head? = some '-'
    let chars := if parted then chars.drop 1 else chars
    if (chars.take width).length = width ∧ (chars.take width).all isHex then
      hexGroups? (taken + width + if parted then 1 else 0) widths (chars.drop width)
    else none

private def down (longest shortest : Nat) : List Nat := ((List.range (longest + 1)).drop shortest).reverse

/-- The lengths a hole can take at the head of a text, the longest first. -/
def lengths (kind : Hole) (chars : List Char) : List Nat :=
  let digits := (chars.takeWhile Text.isDigit).length
  match kind with
  | .word => down (chars.takeWhile (· ≠ '/')).length 1
  | .path => down (chars.takeWhile (· ≠ '\n')).length 0
  | .whole => down digits 1
  | .decimal =>
    let fraction := match chars.drop digits with
      | '.' :: rest => (rest.takeWhile Text.isDigit).length
      | _ => 0
    if digits = 0 then [] else (down fraction 1).map (digits + 1 + ·) ++ down digits 1
  | .identifier => (hexGroups? 0 [8, 4, 4, 4, 12] chars).toList

end Hole

structure Held where
  kind : Hole
  text : String
deriving DecidableEq, Repr

structure EndlessNumeral where
  digits : Nat
deriving DecidableEq, Repr

def EndlessNumeral.message (fault : EndlessNumeral) : String :=
  s!"Exceeds the limit ({Text.longestNumeral} digits) for integer string conversion: value has {fault.digits} digits; " ++
  "use sys.set_int_max_str_digits() to increase the limit"

namespace Held

def check (held : Held) : Except EndlessNumeral Unit :=
  let digits := held.text.length
  if held.kind = .whole ∧ Text.longestNumeral < digits then .error ⟨digits⟩ else .ok ()

private def decimalValue (text : String) : Float :=
  let whole := text.toList.takeWhile Text.isDigit
  let fraction := (text.toList.dropWhile Text.isDigit).drop 1
  Decimal.nearest false (Text.ofDigits (whole ++ fraction)) (-(fraction.length : Int))

def json (held : Held) : Json :=
  match held.kind with
  | .whole => .int (Text.ofDigits held.text.toList)
  | .decimal => .float (decimalValue held.text)
  | _ => .string held.text

def integer (held : Held) : Except Form.Problem Int :=
  match held.kind with
  | .identifier => .error .notInteger
  | _ => Form.integer held.json

def string (held : Held) : Except Form.Problem String :=
  match held.kind with
  | .word | .path => .ok held.text
  | _ => .error .notText

end Held

inductive Piece where
  | fixed (char : Char)
  | hole (name : String) (kind : Hole)
deriving DecidableEq, Repr

structure Pattern where
  pieces : List Piece
deriving DecidableEq, Repr

namespace Pattern

private def startsName (c : Char) : Bool := ('a' ≤ c && c ≤ 'z') || ('A' ≤ c && c ≤ 'Z') || c == '_'

private def goesOnName (c : Char) : Bool := startsName c || Text.isDigit c

private def name? : List Char → Option (String × List Char)
  | [] => none
  | c :: rest =>
    if startsName c then some (String.ofList (c :: rest.takeWhile goesOnName), rest.dropWhile goesOnName) else none

private def hole? (chars : List Char) : Option (String × String × List Char) := do
  let (name, rest) ← name? chars
  match rest with
  | '\x7d' :: rest => some (name, "str", rest)
  | ':' :: rest =>
    let (kind, rest) ← name? rest
    match rest with
    | '\x7d' :: rest => some (name, kind, rest)
    | _ => none
  | _ => none

private def readPieces : Nat → List Char → Except MountFault (List Piece)
  | 0, _ => .ok []
  | _, [] => .ok []
  | fuel + 1, c :: rest => do
    match if c = '\x7b' then hole? rest else none with
    | some (name, kind, rest) =>
      let some kind := Hole.named? kind | throw (.unknownHole kind)
      return .hole name kind :: (← readPieces fuel rest)
    | none => return .fixed c :: (← readPieces fuel rest)

private def names (pieces : List Piece) : List String := pieces.filterMap fun
  | .hole name _ => some name
  | .fixed _ => none

def ofText (text : String) : Except MountFault Pattern := do
  let pieces ← readPieces text.length text.toList
  let all := names pieces
  let repeated := (all.filter fun name => 1 < all.count name).eraseDups.mergeSort
  if repeated.isEmpty then return ⟨pieces⟩ else throw (.repeatedNames repeated text)

/-- The names that stand between a brace and the next closing one, on one line. -/
def bracedNames (pattern : Pattern) : List String :=
  let text := pattern.pieces.flatMap fun
    | .fixed c => [c]
    | .hole name _ => '\x7b' :: name.toList ++ ['\x7d']
  let rec go : Nat → List Char → List String
    | fuel + 1, '\x7b' :: rest =>
      let name := rest.takeWhile fun c => c ≠ '\x7d' ∧ c ≠ '\n'
      match rest.drop name.length with
      | '\x7d' :: after => String.ofList name :: go fuel after
      | _ => go fuel rest
    | fuel + 1, _ :: rest => go fuel rest
    | _, _ => []
  go text.length text

/-- What the holes take if the pattern takes the whole text, but for a line break at its end; of several ways the one in
which earlier holes take more. -/
def take? : List Piece → List Char → Option (List (String × Held))
  | [], chars => if chars = [] ∨ chars = ['\n'] then some [] else none
  | .fixed c :: pieces, chars => match chars with
    | d :: rest => if c = d then take? pieces rest else none
    | [] => none
  | .hole name kind :: pieces, chars =>
    (kind.lengths chars).findSome? fun length =>
      (take? pieces (chars.drop length)).map ((name, ⟨kind, String.ofList (chars.take length)⟩) :: ·)

end Pattern
end Passbook.Http
