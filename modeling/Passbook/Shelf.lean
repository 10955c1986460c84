import Passbook.Cache
import Passbook.Failure
import Passbook.Journal.Record
/-! The shelf of generated reports: a cache, the clock it goes by, and whether its sweeper is at work. -/
namespace Passbook
open Journal

abbrev Bytes := List UInt8

structure Shelf (τ : Type) where
  cache : Cache τ Bytes
  clock : τ
  sweeping : Bool

structure Note where
  level : Level
  message : String
  details : Details

namespace Shelf

def source : String := "payment_ledger.cache"

inductive Step (τ : Type) where
  | set (key : String) (value : Bytes)
  | get (key : String)
  | contains (key : String)
  | delete (key : String)
  | evict
  | size
  | advance (time : τ)
  | start
  | stop
  | isRunning
  | sweep (waits : List (Cache.Wait τ))

inductive Answer where
  | done
  | bytes (value : Bytes)
  | truth (value : Bool)
  | number (value : Nat)

/-- Nothing is said of a pass that evicts nothing. -/
def notesOf : Cache.Pass → List Note
  | .evicted [] => []
  | .evicted keys => [{
      level := Level.debug
      message := s!"Evicted {keys.length} expired reports"
      details := { Details.none with
        action := some (.string "evict_reports"), extra := some (.object [("keys", .ofList .string keys)]) } }]
  | .failed => [⟨Level.error, "Report cache sweep failed", .none⟩]

variable {τ : Type} [Add τ] [Sub τ] [LT τ] [DecidableLT τ] [Reach τ]

/-- The waits up to the first that a clock cannot take. -/
def waitsInReach : τ → List (Cache.Wait τ) → List (Cache.Wait τ)
  | _, [] => []
  | clock, .clockFails :: waits => .clockFails :: waitsInReach clock waits
  | clock, .passes time :: waits =>
    if Reach.canAdd clock time then .passes time :: waitsInReach (clock + time) waits else []

/-- Goes on if the ages can be told that a step asks for. -/
private def aged (shelf : Shelf τ) (key : Option String) (next : Except Failure Answer × List Note × Shelf τ) :
    Except Failure Answer × List Note × Shelf τ :=
  if shelf.cache.tellsAges shelf.clock key then next else (.error .outOfReach, [], shelf)

def step (s : Step τ) (shelf : Shelf τ) : Except Failure Answer × List Note × Shelf τ :=
  match s with
  | .set key value => (.ok .done, [], { shelf with cache := shelf.cache.set shelf.clock key value })
  | .get key =>
    let (value, cache) := shelf.cache.get shelf.clock key
    let outcome := match value with
      | some value => .ok (.bytes value)
      | none => .error (.ledger (.reportNotFound key))
    shelf.aged key (outcome, [], { shelf with cache })
  | .contains key => shelf.aged key (.ok (.truth (shelf.cache.contains shelf.clock key)), [], shelf)
  | .delete key =>
    (.ok (.truth (shelf.cache.find? key).isSome), [], { shelf with cache := shelf.cache.remove key })
  | .evict =>
    let (keys, cache) := shelf.cache.evict shelf.clock
    shelf.aged none (.ok (.number keys.length), notesOf (.evicted keys), { shelf with cache })
  | .size => (.ok (.number shelf.cache.entries.length), [], shelf)
  | .advance time =>
    if Reach.canAdd shelf.clock time then (.ok .done, [], { shelf with clock := shelf.clock + time })
    else (.error .outOfReach, [], shelf)
  | .start => (.ok (.truth true), [], { shelf with sweeping := true })
  | .stop => (.ok (.truth false), [], { shelf with sweeping := false })
  | .isRunning => (.ok (.truth shelf.sweeping), [], shelf)
  | .sweep waits =>
    let taken := waitsInReach shelf.clock waits
    let (passes, clock, cache) := Cache.sweep taken shelf.clock shelf.cache
    (if taken.length = waits.length then .ok .done else .error .outOfReach, passes.flatMap notesOf, { shelf with clock, cache })

end Shelf
end Passbook
