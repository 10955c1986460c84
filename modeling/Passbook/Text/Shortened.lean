/-! Texts cut to a number of bytes: head and tail stay, whole characters each, with three dots between them. -/
namespace Passbook.Text

def takeBytes : Nat → List Char → List Char
  | _, [] => []
  | room, c :: rest => if c.utf8Size ≤ room then c :: takeBytes (room - c.utf8Size) rest else []

/-- A text of more bytes than the limit loses its middle; of the bytes that stay, head and tail share evenly. -/
def shortened (limit : Nat) (text : String) : String :=
  if text.utf8ByteSize ≤ limit then text
  else
    let half := (limit + 1) / 2
    String.ofList (takeBytes half text.toList ++ ['.', '.', '.'] ++ (takeBytes (half - 1) text.toList.reverse).reverse)

end Passbook.Text
