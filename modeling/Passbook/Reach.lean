/-! Times that may lie too far apart to be added or subtracted. -/
namespace Passbook

class Reach (τ : Type) where
  canAdd : τ → τ → Bool
  canSubtract : τ → τ → Bool

@[reducible] def Reach.everywhere (τ : Type) : Reach τ := ⟨fun _ _ => true, fun _ _ => true⟩

end Passbook
