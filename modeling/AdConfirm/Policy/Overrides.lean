import AdConfirm.Json.Value
import AdConfirm.Table

/-!
Runtime overrides by policy path. An override may have a deadline; it is live before its deadline and expired from it on.

Time is that of the clock, in milliseconds from its zero. The clock counts whole seconds in 63 bits, so that no override can be
made which would end later.
-/

namespace AdConfirm.Policy

structure Override where
  value : Json.Value
  owner : String
  reason : String
  deadline : Option Nat

/-- how many milliseconds the clock can tell -/
def clockSize : Nat := 1000 * Nat.pow 2 63

namespace Override

/-- whether the override still counts -/
def isLive (now : Nat) (o : Override) : Bool :=
  match o.deadline with
  | none => true
  | some d => now < d

end Override

abbrev Overrides := Table Override

namespace Overrides

/-- the override made now for so many milliseconds, or for good; none if the clock cannot tell its deadline -/
def make? (value : Json.Value) (owner reason : String) (ttl : Option Nat) (now : Nat) : Option Override :=
  match ttl with
  | none => some ⟨value, owner, reason, none⟩
  | some t => if now + t < clockSize then some ⟨value, owner, reason, some (now + t)⟩ else none

/-- removes the override of a path if it has expired; a newer one that is live stays -/
def expire (s : Overrides) (now : Nat) (path : String) : Overrides × Bool :=
  match s.find? path with
  | some o => if o.isLive now then (s, false) else (s.erase path, true)
  | none => (s, false)

def remove (s : Overrides) (path : String) : Overrides × Option Override := (s.erase path, s.find? path)

/-- the live overrides alone -/
def purge (s : Overrides) (now : Nat) : Overrides := s.filter fun _ o => o.isLive now

/-- drops what has expired; the values that are live, by their paths -/
def active (s : Overrides) (now : Nat) : Overrides × List (String × Json.Value) :=
  let live := s.purge now
  (live, live.entries.map fun e => (e.1, e.2.value))

end Overrides

end AdConfirm.Policy
