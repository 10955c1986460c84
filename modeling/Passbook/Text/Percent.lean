import Passbook.Text.Padded
import Passbook.Text.Utf8
/-! Percent-encoded text: paths and query strings of a request. -/
namespace Passbook.Text

private def encodedBytes : List Nat → List Nat
  | 37 :: a :: b :: rest =>
    match hexValue? (Char.ofNat a), hexValue? (Char.ofNat b) with
    | some high, some low => (high * 16 + low) :: encodedBytes rest
    | _, _ => 37 :: encodedBytes (a :: b :: rest)
  | code :: rest => bytesOfCode code ++ encodedBytes rest
  | [] => []
termination_by codes => codes.length

/-- Decoded text; a percent sign that two hexadecimal digits do not follow stands for itself. -/
def percentDecoded (text : String) : String := decodeUtf8 (encodedBytes (codes text))

private def staysInAddress (byte : Nat) : Bool :=
  let c := Char.ofNat byte
  c.isAlphanum || "_.-~:/%#?=@[]!$&'()*+,;".toList.contains c

private def percentTriple (byte : Nat) : List Char := '%' :: (hexDigits 2 byte).map Char.toUpper

def percentEncoded (address : String) : String :=
  String.ofList ((utf8Bytes address).flatMap fun byte =>
    if staysInAddress byte then [Char.ofNat byte] else percentTriple byte)

private def queryDecoded (text : String) : String := percentDecoded (text.replace "+" " ")

/-- The pairs of a query string in order; a part without `=` has the empty value, an empty part is skipped. -/
def queryPairs (query : String) : List (String × String) :=
  (query.splitOn "&").filterMap fun part =>
    if part.isEmpty then none
    else match part.splitOn "=" with
      | [] => none
      | name :: rest => some (queryDecoded name, queryDecoded ("=".intercalate rest))

end Passbook.Text
