/-! Rows kept in the order of a key. -/
namespace Passbook.Rows
variable {ρ : Type} (key : ρ → Int)

def find? (k : Int) (rows : List ρ) : Option ρ := rows.find? fun r => key r == k

def contains (k : Int) (rows : List ρ) : Bool := rows.any fun r => key r == k

/-- Puts a row before the first one with a larger key. -/
def insert (row : ρ) : List ρ → List ρ
  | [] => [row]
  | r :: rows => if key row < key r then row :: r :: rows else r :: insert row rows

def update (k : Int) (change : ρ → ρ) (rows : List ρ) : List ρ :=
  rows.map fun r => if key r = k then change r else r

def remove (k : Int) (rows : List ρ) : List ρ := rows.filter fun r => key r != k

end Passbook.Rows
