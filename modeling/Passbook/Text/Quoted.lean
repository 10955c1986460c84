import Passbook.Text.Code
import Passbook.Text.Padded
import Passbook.Text.Unprintable
/-! A text between quotes, with everything that has no visible form written as an escape. Single quotes
are used unless the text holds single quotes only. -/
namespace Passbook.Text

private def escapedCode (quote : Char) (code : Nat) : List Char :=
  if code = '\\'.toNat ∨ code = quote.toNat then ['\\', Char.ofNat code]
  else if code = 0x0a then ['\\', 'n']
  else if code = 0x0d then ['\\', 'r']
  else if code = 0x09 then ['\\', 't']
  else if code < 0x20 ∨ code = 0x7f then numbered code
  else if 0x7f < code ∧ Unprintable.contains code then numbered code
  else charsOfCode code

def quoted (text : String) : String :=
  let all := codes text
  let quote := if all.contains '\''.toNat && !all.contains '"'.toNat then '"' else '\''
  String.ofList (quote :: all.flatMap (escapedCode quote) ++ [quote])

def asciiOnly (text : String) : String :=
  String.ofList ((codes text).flatMap fun code => if code < 0x80 then [Char.ofNat code] else numbered code)

end Passbook.Text
