import Passbook.Http.Service
/-! The service as an application: it is started on a system, and on its way down closes the system if that is its own. -/
namespace Passbook.Http

structure Application (τ : Type) where
  system : System τ
  ownsSystem : Bool

namespace Application
variable {τ : Type}

/-- The mounted application; the pattern of its path is looked at when the first request comes. -/
def mount (system : System τ) (ownsSystem : Bool) : Except Failure (Application τ) :=
  if canMount system.settings.mountPath then .ok ⟨system, ownsSystem⟩ else .error (.mount .unrooted)

def shutDown (app : Application τ) : Application τ :=
  if app.ownsSystem then { app with system := (System.close app.system).2 } else app

end Application
end Passbook.Http
