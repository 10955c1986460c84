import Passbook.Store.Address
/-! Files, which outlive the stores that are opened on them. A store in memory starts empty and leaves nothing behind. -/
namespace Passbook

structure Files (δ : Type) where
  contents : List (StoreAddress.Place × δ) := []

namespace Files
variable {δ : Type}

def find? (files : Files δ) (address : StoreAddress) : Option δ := do
  let place ← address.place?
  let found ← files.contents.find? fun file => file.1 = place
  return found.2

def put (files : Files δ) (address : StoreAddress) (content : δ) : Files δ :=
  match address.place? with
  | some place => ⟨(place, content) :: files.contents.filter fun file => file.1 ≠ place⟩
  | none => files

end Files
end Passbook
