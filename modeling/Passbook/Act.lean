import Passbook.Failure
/-! Acts on a state: an act fails or answers, and what it has changed stays in either case. -/
namespace Passbook

def Act (σ α : Type) := σ → Except Failure α × σ

namespace Act
variable {σ ρ α β : Type}

protected def pure (a : α) : Act σ α := fun s => (.ok a, s)

protected def bind (act : Act σ α) (next : α → Act σ β) : Act σ β := fun s =>
  match act s with
  | (.ok a, s) => next a s
  | (.error e, s) => (.error e, s)

protected def throw (e : Failure) : Act σ α := fun s => (.error e, s)

protected def tryCatch (act : Act σ α) (handle : Failure → Act σ α) : Act σ α := fun s =>
  match act s with
  | (.ok a, s) => (.ok a, s)
  | (.error e, s) => handle e s

instance : Monad (Act σ) where
  pure := Act.pure
  bind := Act.bind

instance : MonadExceptOf Failure (Act σ) where
  throw := Act.throw
  tryCatch := Act.tryCatch

instance : MonadStateOf σ (Act σ) where
  get := fun s => (.ok s, s)
  set s := fun _ => (.ok (), s)
  modifyGet f := fun s => (.ok (f s).1, (f s).2)

def outcome (act : Act σ α) : Act σ (Except Failure α) := fun s => (.ok (act s).1, (act s).2)

def ofExcept (outcome : Except Failure α) : Act σ α := fun s => (outcome, s)

def recast (change : Failure → Failure) (act : Act σ α) : Act σ α := fun s =>
  match act s with
  | (.ok a, s) => (.ok a, s)
  | (.error e, s) => (.error (change e), s)

def onPart (part : σ → ρ) (replace : ρ → σ → σ) (act : Act ρ α) : Act σ α := fun s =>
  ((act (part s)).1, replace (act (part s)).2 s)

end Act
end Passbook
