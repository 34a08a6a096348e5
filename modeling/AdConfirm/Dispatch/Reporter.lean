import AdConfirm.Dispatch.Stack
import AdConfirm.Span

/-!
The reporter that confirms views, as the queue meets it: a call takes some time and then succeeds, is rejected, or breaks
down; or it never ends. A call is given a time limit, and one that is not over by then is cut off. A call that ends just
at its limit is not.
-/

namespace AdConfirm.Dispatch

/-- what a report is about -/
inductive EventKind where
  | served
  | viewed
  | clicked
  deriving DecidableEq

def EventKind.name : EventKind → String
  | .served => "served"
  | .viewed => "viewed"
  | .clicked => "clicked"

/-- how a call ends that nobody cuts off -/
inductive Ending where
  | answers (success : Bool) (placement : String)
  | breaksDown
  | hangs
  deriving DecidableEq

/-- a call: how long it takes, in milliseconds, and how it ends -/
structure Call where
  delay : Nat
  ending : Ending
  deriving DecidableEq

/-- the reporter: the call it makes for an entry -/
abbrev Reporter : Type := Entry → Call

/-- a call succeeds at once and names the placement of the ad -/
def Reporter.prompt : Reporter := fun e => ⟨0, .answers true e.ad.placementId⟩

/-- why a report failed -/
inductive Fault where
  | rejected (placement : String)
  | timedOut (limit : Nat)
  deriving DecidableEq

def Fault.message : Fault → String
  | .rejected placement => "reporter rejected ad event for placement " ++ placement
  | .timedOut limit => "reporter did not answer within " ++ spanText limit

/-- what comes of a call under a time limit -/
inductive Outcome where
  | recorded (placement : String)
  | failed (fault : Fault)
  | brokeDown
  deriving DecidableEq

/-- how long a call takes under a time limit, and what comes of it -/
def Call.under (c : Call) (limit : Nat) : Nat × Outcome :=
  if limit < c.delay then (limit, .failed (.timedOut limit))
  else match c.ending with
    | .hangs => (limit, .failed (.timedOut limit))
    | .breaksDown => (c.delay, .brokeDown)
    | .answers true placement => (c.delay, .recorded placement)
    | .answers false placement => (c.delay, .failed (.rejected placement))

end AdConfirm.Dispatch
