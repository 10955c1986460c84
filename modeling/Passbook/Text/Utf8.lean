import Passbook.Text.Code
import Passbook.Text.Padded
/-! Texts as bytes in UTF-8, and bytes read back: strictly, or with the replacement character for each longest run of bytes that
starts a character but cannot be completed and for each byte that can start none. -/
namespace Passbook.Text

private def following (n : Nat) : Nat := 0x80 + n % 0x40

def bytesOfCode (code : Nat) : List Nat :=
  if code < 0x80 then [code]
  else if code < 0x800 then [0xc0 + code / 0x40, following code]
  else if code < 0x10000 then [0xe0 + code / 0x1000, following (code / 0x40), following code]
  else [0xf0 + code / 0x40000, following (code / 0x1000), following (code / 0x40), following code]

/-- The bytes of a text; halves of pairs have three each. -/
def utf8Bytes (text : String) : List Nat := (codes text).flatMap bytesOfCode

inductive Garble where
  | badStart
  | badContinuation
  | cutShort
deriving DecidableEq, Repr

def Garble.reason : Garble → String
  | .badStart => "invalid start byte"
  | .badContinuation => "invalid continuation byte"
  | .cutShort => "unexpected end of data"

inductive Piece where
  | code (code : Nat)
  | garbled (run : List Nat) (garble : Garble)
deriving DecidableEq, Repr

/-- A character that has begun: its bytes so far, how many are owed, the range of the next one, and the bits so far. -/
private structure Begun where
  run : List Nat
  owed : Nat
  low : Nat
  high : Nat
  bits : Nat

/-- Number of further bytes and the range of the next one, for a byte that starts a longer character. -/
private def leadOf (b : Nat) : Option (Nat × Nat × Nat) :=
  if 0xc2 ≤ b ∧ b ≤ 0xdf then some (1, 0x80, 0xbf)
  else if b = 0xe0 then some (2, 0xa0, 0xbf)
  else if b = 0xed then some (2, 0x80, 0x9f)
  else if 0xe1 ≤ b ∧ b ≤ 0xef then some (2, 0x80, 0xbf)
  else if b = 0xf0 then some (3, 0x90, 0xbf)
  else if 0xf1 ≤ b ∧ b ≤ 0xf3 then some (3, 0x80, 0xbf)
  else if b = 0xf4 then some (3, 0x80, 0x8f)
  else none

private def startWith (b : Nat) : List Piece × Option Begun :=
  if b < 0x80 then ([.code b], none)
  else match leadOf b with
    | some (owed, low, high) => ([], some ⟨[b], owed, low, high, b % Nat.pow 2 (6 - owed)⟩)
    | none => ([.garbled [b] .badStart], none)

private def Begun.goOn (begun : Begun) (b : Nat) : List Piece × Option Begun :=
  if begun.low ≤ b ∧ b ≤ begun.high then
    let bits := begun.bits * 64 + b % 64
    if begun.owed = 1 then ([.code bits], none)
    else ([], some ⟨begun.run ++ [b], begun.owed - 1, 0x80, 0xbf, bits⟩)
  else
    let (pieces, next) := startWith b
    (.garbled begun.run .badContinuation :: pieces, next)

private def piecesFrom (begun : Option Begun) : List Nat → List Piece
  | [] => match begun with
    | some begun => [.garbled begun.run .cutShort]
    | none => []
  | b :: rest =>
    let (pieces, next) := match begun with
      | some begun => begun.goOn b
      | none => startWith b
    pieces ++ piecesFrom next rest

def pieces (bytes : List Nat) : List Piece := piecesFrom none bytes

private def replacement : Nat := 0xfffd

def decodeUtf8 (bytes : List Nat) : String :=
  ofCodes ((pieces bytes).map fun
    | .code code => code
    | .garbled _ _ => replacement)

structure Undecodable where
  run : List Nat
  start : Nat
  garble : Garble
deriving DecidableEq, Repr

def Undecodable.message (u : Undecodable) : String :=
  let what := match u.run with
    | [b] => "byte 0x" ++ String.ofList (hexDigits 2 b) ++ s!" in position {u.start}"
    | _ => s!"bytes in position {u.start}-{u.start + u.run.length - 1}"
  "'utf-8' codec can't decode " ++ what ++ ": " ++ u.garble.reason

private def codesOfPieces (start : Nat) : List Piece → Except Undecodable (List Nat)
  | [] => .ok []
  | .garbled run garble :: _ => .error ⟨run, start, garble⟩
  | .code code :: rest => (code :: ·) <$> codesOfPieces (start + (bytesOfCode code).length) rest

def ofUtf8 (bytes : List Nat) : Except Undecodable String := ofCodes <$> codesOfPieces 0 (pieces bytes)

section
variable {bytes : List Nat} (ascii : ∀ b ∈ bytes, b < 0x80)

include ascii

private theorem pieces_of_ascii : pieces bytes = bytes.map .code := by
  unfold pieces
  induction bytes with
  | nil => rfl
  | cons b rest ih =>
    have starts : startWith b = ([.code b], none) := if_pos (ascii b List.mem_cons_self)
    rw [piecesFrom, List.map_cons, ← ih fun b among => ascii b (List.mem_cons_of_mem _ among)]
    simp only [starts]
    rfl

private theorem codesOfPieces_of_codes (start : Nat) : codesOfPieces start (bytes.map .code) = .ok bytes := by
  induction bytes generalizing start with
  | nil => rfl
  | cons b rest ih =>
    rw [List.map_cons, codesOfPieces, ih fun b among => ascii b (List.mem_cons_of_mem _ among)]
    rfl

theorem ofUtf8_of_ascii : ofUtf8 bytes = .ok (ofCodes bytes) := by
  rw [ofUtf8, pieces_of_ascii ascii, codesOfPieces_of_codes ascii]
  rfl

end

/-- Bytes of a text in which halves of pairs stand for bytes that are no characters. -/
def rawBytes (text : String) : List Nat :=
  (codes text).flatMap fun n => if 0xdc80 ≤ n ∧ n ≤ 0xdcff then [n - 0xdc00] else bytesOfCode n

/-- Bytes as a text, those that are no characters as halves of pairs. -/
def ofRawBytes (bytes : List Nat) : String :=
  ofCodes ((pieces bytes).flatMap fun
    | .code code => [code]
    | .garbled run _ => run.map (0xdc00 + ·))

end Passbook.Text
