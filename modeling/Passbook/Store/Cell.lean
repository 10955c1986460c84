import Passbook.Decimal.Number
import Passbook.Json.Value
import Passbook.Store.Numeral
/-! Values of a store. An integer column makes an integer of text that reads as one and of a number without fraction that
fits 64 bits; other numbers and other text stay what they are. Numbers come before all text. -/
namespace Passbook

def maxInteger : Int := 0x7fffffffffffffff

def minInteger : Int := -0x8000000000000000

def fitsInteger (n : Int) : Bool := minInteger ≤ n && n ≤ maxInteger

inductive Cell where
  | null
  | int (value : Int)
  | real (value : Decimal.Double)
  | text (value : String)
deriving DecidableEq, Repr

namespace Cell

def ofFloat (x : Float) : Cell := .real (.ofFloat x)

def ofBool (b : Bool) : Cell := .int (if b then 1 else 0)

/-- A number that is undefined counts as nothing. -/
def ofDefined (x : Float) : Cell := if x == x then ofFloat x else .null

/-- The least integer of 64 bits is not taken for a whole number. -/
private def ofReal (x : Float) : Cell :=
  match Decimal.wholeValue? x with
  | some n => if minInteger < n ∧ n ≤ maxInteger then .int n else ofFloat x
  | none => ofDefined x

def integral : Cell → Cell
  | .real x => ofReal x.float
  | .text t =>
    let number := Store.Numeral.read t
    if !number.isWhole then .text t
    else if number.isPlain && fitsInteger (Store.Numeral.plainInteger t) then .int (Store.Numeral.plainInteger t)
    else ofReal number.value
  | cell => cell

/-- The integer in a cell, zero for anything else. -/
def whole : Cell → Int
  | .int n => n
  | .real x => (Decimal.wholeValue? x.float).getD 0
  | _ => 0

def number : Cell → Float
  | .null => 0.0
  | .int n => Float.ofInt n
  | .real x => x.float
  | .text t => (Store.Numeral.read t).value

def isTrue : Cell → Bool
  | .int n => n != 0
  | cell => cell.number != 0.0

/-- Whether there is something in a cell: text that is not empty, or a number but zero. -/
def isFilled : Cell → Bool
  | .null => false
  | .int n => n != 0
  | .real x => x.float != 0.0
  | .text t => !t.isEmpty

private def compareText (s t : String) : Ordering := if s < t then .lt else if s = t then .eq else .gt

/-- The order of cells: nothing, numbers by value, text by its characters. -/
def compare : Cell → Cell → Ordering
  | .null, .null => .eq
  | .null, _ => .lt
  | _, .null => .gt
  | .int m, .int n => Ord.compare m n
  | .real x, .int n => Decimal.compareWhole x.float n
  | .int m, .real x => (Decimal.compareWhole x.float m).swap
  | .real x, .real y => if x.float < y.float then .lt else if y.float < x.float then .gt else .eq
  | .text s, .text t => compareText s t
  | .text _, _ => .gt
  | _, .text _ => .lt

def agrees (a b : Cell) : Bool := (compare a b).isEq

def negated? : Cell → Option Cell
  | .int n => some (.int (-n))
  | .real x => some (ofFloat (-x.float))
  | _ => none

def json : Cell → Json
  | .null => .null
  | .int n => .int n
  | .real x => .float x.float
  | .text s => .string s

end Cell
end Passbook
