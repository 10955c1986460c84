import Passbook.Text.Code
import Passbook.Text.Padded
/-! Which characters an encoding has codes for. A text that cannot be encoded is reported with the first run of
characters that have none. -/
namespace Passbook.Text

inductive Charset where
  | utf8
  | latin1
  /-- Names of files and variables: bytes that are no text stand as halves of pairs. -/
  | raw
deriving DecidableEq, Repr

namespace Charset

def name : Charset → String
  | .utf8 | .raw => "utf-8"
  | .latin1 => "latin-1"

/-- All code points but halves of pairs, or the first 256; halves that stand for bytes may be allowed too. -/
def holds : Charset → Nat → Bool
  | .utf8, code => !isHalf code
  | .latin1, code => code < 0x100
  | .raw, code => !isHalf code || (0xdc80 ≤ code && code ≤ 0xdcff)

def goesOn : Charset → Nat → Bool
  | .latin1, code => 0x100 ≤ code
  | _, code => isHalf code

def reason : Charset → String
  | .utf8 | .raw => "surrogates not allowed"
  | .latin1 => "ordinal not in range(256)"

end Charset

structure Unencodable where
  charset : Charset
  run : List Nat
  start : Nat
deriving DecidableEq, Repr

def unencodable? (charset : Charset) (text : String) : Option Unencodable :=
  let all := codes text
  match all.dropWhile charset.holds with
  | [] => none
  | rest => some ⟨charset, rest.takeWhile charset.goesOn, all.length - rest.length⟩

def Unencodable.message (u : Unencodable) : String :=
  let what := match u.run with
    | [code] => "character '" ++ String.ofList (numbered code) ++ s!"' in position {u.start}"
    | _ => s!"characters in position {u.start}-{u.start + u.run.length - 1}"
  "'" ++ u.charset.name ++ "' codec can't encode " ++ what ++ ": " ++ u.charset.reason

end Passbook.Text
