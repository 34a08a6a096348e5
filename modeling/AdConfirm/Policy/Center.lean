import AdConfirm.Agenda
import AdConfirm.Policy.Load
import AdConfirm.Policy.Overrides
import AdConfirm.Span

/-!
The policy center: a base policy, the runtime overrides on it, and the snapshot that results, published to whoever
watches.

Every change that takes effect rebuilds the snapshot from the base and the live overrides, raises the revision by one
(up to the greatest of 64 bits) and publishes. An override with a time to live gets a timer that takes it back. One whose
deadline the clock cannot tell is not applied: the call breaks down over it, before it has changed anything.
-/

namespace AdConfirm.Policy

structure Center where
  base : Snapshot
  snapshot : Snapshot
  overrides : Overrides
  revision : UInt64
  watched : Snapshot
  published : Nat
  source : Option Options

/-- an override to be applied; its time to live is in seconds, and zero is none -/
structure OverrideSpec where
  path : String
  value : Json.Value
  owner : String
  reason : String
  ttl : UInt64

/-- the timer of an override: set, or run down -/
inductive Expiry where
  | set (path : String) (ttl : Nat)
  | due (path : String)
  deriving DecidableEq

/-- what keeps an override from being applied: it fails, or the clock cannot tell its deadline and the call breaks down -/
inductive ApplyFault where
  | failed (e : PolicyError)
  | brokeDown

namespace OverrideSpec

/-- for how many seconds the override is to last, if not for good -/
def seconds? (s : OverrideSpec) : Option Nat := if s.ttl = 0 then none else some s.ttl.toNat

/-- what is stored if the override is applied now -/
def make? (s : OverrideSpec) (now : Nat) : Option Override :=
  Overrides.make? s.value s.owner s.reason (s.seconds?.map (1000 * ·)) now

/-- the timer to be set for the override -/
def timer? (s : OverrideSpec) : Option Expiry := s.seconds?.map (.set s.path)

def line (s : OverrideSpec) : Log.Line :=
  ⟨.info, "applying policy override",
    [("path", s.path), ("owner", s.owner), ("reason", s.reason), ("ttl", secondsOptionText s.seconds?)]⟩

end OverrideSpec

def reloadedLine (rev : UInt64) : Log.Line := ⟨.info, "policy reloaded", [("rev", toString rev.toNat)]⟩

namespace Center

/-- a center on a base, with the sources it was loaded from if it can be reloaded -/
def build (base : Snapshot) (source : Option Options) : Center := ⟨base, base, Table.empty, base.rev, base, 0, source⟩

def ofSnapshot (base : Snapshot) : Center := build base none

def ofOptions (w : Surroundings) (o : Options) : Except PolicyError Center := (load w o).map fun p => build p (some o)

/-- the next revision; the greatest one stays -/
def nextRevision (r : UInt64) : UInt64 := if r.toNat + 1 < UInt64.size then r + 1 else r

def overlays (values : List (String × Json.Value)) : List Overlay := values.map fun v => ⟨v.1, v.2, .runtimeOverride⟩

/-- rebuilds the snapshot from the base and the live overrides -/
def recompute (c : Center) (now : Nat) : Center × Except PolicyError Unit :=
  let (live, values) := c.overrides.active now
  let c := { c with overrides := live }
  match c.base.layAll (overlays values) with
  | .error e => (c, .error e)
  | .ok next =>
    let rev := nextRevision c.revision
    ({ c with revision := rev, snapshot := { next with rev } }, .ok ())

/-- shows the snapshot to whoever watches -/
def publish (c : Center) : Center := { c with watched := c.snapshot, published := c.published + 1 }

def refresh (c : Center) (now : Nat) : Center × Except PolicyError Unit :=
  match c.recompute now with
  | (c, .error e) => (c, .error e)
  | (c, .ok ()) => (c.publish, .ok ())

/-- whether an override may be applied at all: the path is known and the value is of its kind -/
def check (s : OverrideSpec) : Except PolicyError Unit :=
  (Snapshot.blank.lay ⟨s.path, s.value, .runtimeOverride⟩).map fun _ => ()

/-- applies an override; the timer to be set, if it has a time to live -/
def apply (c : Center) (now : Nat) (s : OverrideSpec) : Center × Except ApplyFault (Option Expiry) :=
  match check s with
  | .error e => (c, .error (.failed e))
  | .ok () =>
    match s.make? now with
    | none => (c, .error .brokeDown)
    | some o =>
      match { c with overrides := c.overrides.insert s.path o }.refresh now with
      | (c, .error e) => (c, .error (.failed e))
      | (c, .ok ()) => (c, .ok s.timer?)

def applyLines (s : OverrideSpec) : List Log.Line :=
  match check s with
  | .error _ => []
  | .ok () => [s.line]

/-- takes back the override of a path; false if there is none -/
def clear (c : Center) (now : Nat) (path : String) : Center × Except PolicyError Bool :=
  match c.overrides.remove path with
  | (_, none) => (c, .ok false)
  | (rest, some _) =>
    match { c with overrides := rest }.refresh now with
    | (c, .error e) => (c, .error e)
    | (c, .ok ()) => (c, .ok true)

/-- loads the base anew from its sources; the lines that are logged come along -/
def reload (c : Center) (now : Nat) (w : Surroundings) : Center × Except PolicyError Unit × List Log.Line :=
  match c.source with
  | none => (c, .error .reloadUnavailable, [])
  | some o =>
    let (looked, r) := loadNoting w o
    let lines := looked.map loadingLine
    match r with
    | .error e => (c, .error e, lines)
    | .ok base =>
      match { c with base }.refresh now with
      | (c, .error e) => (c, .error e, lines)
      | (c, .ok ()) => (c, .ok (), lines ++ [reloadedLine c.snapshot.rev])

/-- a timer that has run down takes its override back, if that has expired and is still there -/
def expire (c : Center) (now : Nat) (path : String) : Center :=
  match c.overrides.expire now path with
  | (_, false) => c
  | (rest, true) => ({ c with overrides := rest }.refresh now).1

end Center

end AdConfirm.Policy
