import AdConfirm.Policy.Center
import AdConfirm.Policy.Gate

/-!
The gate that every ingestion and every viewed request has to pass: it goes by the policy center as it is at the time, or
by one snapshot for ever. A gate without the switch for confirmations lets them pass.
-/

namespace AdConfirm.Pipeline

open AdConfirm.Policy (Center Snapshot)

inductive Gate where
  | live
  | fixed (p : Snapshot)
  | withoutSwitch (p : Snapshot)

namespace Gate

/-- the snapshot that the gate goes by -/
def policy (g : Gate) (c : Center) : Snapshot :=
  match g with
  | .live => c.watched
  | .fixed p => p
  | .withoutSwitch p => p

def reports (g : Gate) (c : Center) : Bool := (g.policy c).reports

/-- whether views of search result ads are confirmed -/
def confirms (g : Gate) (c : Center) : Bool :=
  match g with
  | .withoutSwitch _ => true
  | g => (g.policy c).confirmationEvents

/-- whether a page may be asked for ads -/
def admits (g : Gate) (c : Center) (u : Url) : Bool := g.reports c && g.confirms c && (g.policy c).allows u

end Gate

end AdConfirm.Pipeline
