import Passbook.Reach
/-! A cache with sliding expiry: an entry lives on as long as no gap between its accesses exceeds the time to live. Times are
of any type with a difference and an order. Entries stand in the order in which their keys came in. -/
namespace Passbook

structure Cached (τ β : Type) where
  key : String
  value : β
  lastAccess : τ

structure Cache (τ β : Type) where
  ttl : τ
  /-- Time between two sweeps. -/
  interval : τ
  entries : List (Cached τ β)

inductive CacheFault where
  | ttl
  | interval
deriving DecidableEq, Repr

def CacheFault.message : CacheFault → String
  | .ttl => "ttl_seconds must be positive"
  | .interval => "clean_interval_seconds must be positive"

namespace Cache
variable {τ β : Type} [Sub τ] [LT τ] [DecidableLT τ]

def open? [Zero τ] [LE τ] [DecidableLE τ] (ttl interval : τ) : Except CacheFault (Cache τ β) :=
  if ttl ≤ 0 then .error .ttl
  else if interval ≤ 0 then .error .interval
  else .ok ⟨ttl, interval, []⟩

omit [Sub τ] [LT τ] [DecidableLT τ] in
def find? (c : Cache τ β) (key : String) : Option (Cached τ β) := c.entries.find? fun e => e.key == key

def isExpired (c : Cache τ β) (now : τ) (e : Cached τ β) : Bool := decide (c.ttl < now - e.lastAccess)

/-- Puts a value under a key; a key that is there keeps its place. -/
def set (c : Cache τ β) (now : τ) (key : String) (value : β) : Cache τ β :=
  let entry : Cached τ β := ⟨key, value, now⟩
  if (c.find? key).isSome then { c with entries := c.entries.map fun e => if e.key = key then entry else e }
  else { c with entries := c.entries ++ [entry] }

def remove (c : Cache τ β) (key : String) : Cache τ β := { c with entries := c.entries.filter fun e => e.key != key }

/-- The live value of a key, whose time starts anew; an expired entry is dropped. -/
def get (c : Cache τ β) (now : τ) (key : String) : Option β × Cache τ β :=
  match c.find? key with
  | none => (none, c)
  | some e =>
    if c.isExpired now e then (none, c.remove key)
    else (some e.value,
      { c with entries := c.entries.map fun e => if e.key = key then { e with lastAccess := now } else e })

/-- Whether a key has a live value; this is no access. -/
def contains (c : Cache τ β) (now : τ) (key : String) : Bool :=
  match c.find? key with
  | none => false
  | some e => !c.isExpired now e

def evict (c : Cache τ β) (now : τ) : List String × Cache τ β :=
  ((c.entries.filter (c.isExpired now)).map Cached.key,
    { c with entries := c.entries.filter fun e => !c.isExpired now e })

/-- What happens while a sweeper waits: time passes, or the clock cannot be read at the end of the wait. -/
inductive Wait (τ : Type) where
  | passes (time : τ)
  | clockFails

inductive Pass where
  | evicted (keys : List String)
  | failed
deriving DecidableEq, Repr

omit [Sub τ] [LT τ] [DecidableLT τ] in
def tellsAges [Reach τ] (c : Cache τ β) (now : τ) (key : Option String := none) : Bool :=
  c.entries.all fun e => key.any (· != e.key) || Reach.canSubtract now e.lastAccess

/-- One pass after each wait, until the waits end; a pass that fails leaves the cache alone. -/
def sweep [Add τ] [Reach τ] : List (Wait τ) → τ → Cache τ β → List Pass × τ × Cache τ β
  | [], now, c => ([], now, c)
  | .passes time :: waits, now, c =>
    if c.tellsAges (now + time) then
      let (keys, c) := c.evict (now + time)
      let (passes, now, c) := sweep waits (now + time) c
      (.evicted keys :: passes, now, c)
    else
      let (passes, now, c) := sweep waits (now + time) c
      (.failed :: passes, now, c)
  | .clockFails :: waits, now, c =>
    let (passes, now, c) := sweep waits now c
    (.failed :: passes, now, c)

end Cache
end Passbook
