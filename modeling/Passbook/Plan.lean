import Passbook.Store.Session
/-! Plans of calls, grouped in units of work. A unit opens a session unless one is open, which it then joins. A failure that
is not caught ends its unit; the outermost unit is undone, and a joined one hands the failure on. -/
namespace Passbook

/-- A call or a unit. One that is detached does not join an open session; a caught failure does not end the unit
around it. -/
inductive Plan (ι : Type) where
  | call (call : ι) (isDetached isCaught : Bool)
  | unit (plans : List (Plan ι)) (isDetached isCaught : Bool)

namespace Plan

def isCaught {ι : Type} : Plan ι → Bool
  | .call _ _ caught => caught
  | .unit _ _ caught => caught

/-- What has come of a plan. A unit tells what has come of its parts, and why it was undone if it was; a joined unit that
fails is just the failure. -/
inductive Outcome (α : Type) where
  | answered (answer : α)
  | failed (failure : Failure)
  | unit (failure : Option Failure) (parts : List (Outcome α))

def Outcome.failure? {α : Type} : Outcome α → Option Failure
  | .failed failure => some failure
  | _ => none

structure Parts (α : Type) where
  outcomes : List (Outcome α)
  failure : Option Failure

section
variable {σ δ ι α : Type} [Holds σ δ] [Keyed δ]

def alone (parts : Act σ (Parts α)) : Act σ (Outcome α) := do
  match ← (Act.onStore Work.openUnit).outcome with
  | .error e => return .unit (some e) []
  | .ok () =>
    let parts ← parts
    let outcome : Except Failure Unit := match parts.failure with
      | some e => .error e
      | none => .ok ()
    match ← (Act.onStore (Work.closeUnit outcome)).outcome with
    | .ok () => return .unit none parts.outcomes
    | .error e => return .unit (some e) parts.outcomes

def joined (parts : Act σ (Parts α)) : Act σ (Outcome α) := do
  let parts ← parts
  match parts.failure with
  | some e => return .failed e
  | none => return .unit none parts.outcomes

mutual

/-- Carries out a plan. `perform` is told whether a call is joined to the open session. -/
def carryOut (perform : Bool → ι → Act σ α) (inSession : Bool) : Plan ι → Act σ (Outcome α)
  | .call c isDetached _ => do
    match ← (perform (inSession && !isDetached) c).outcome with
    | .ok a => return .answered a
    | .error e => return .failed e
  | .unit plans isDetached _ =>
    if inSession && !isDetached then joined (carryOutAll perform plans) else alone (carryOutAll perform plans)

def carryOutAll (perform : Bool → ι → Act σ α) : List (Plan ι) → Act σ (Parts α)
  | [] => return ⟨[], none⟩
  | plan :: plans => do
    let outcome ← carryOut perform true plan
    match outcome.failure?, plan.isCaught with
    | some e, false => return ⟨[outcome], some e⟩
    | _, _ =>
      let rest ← carryOutAll perform plans
      return { rest with outcomes := outcome :: rest.outcomes }

end

end

end Plan
end Passbook
