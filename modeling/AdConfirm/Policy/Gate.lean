import AdConfirm.Policy.Snapshot
import AdConfirm.Url.Basic

/-!
What a policy says to the ad pipeline.
-/

namespace AdConfirm.Policy.Snapshot

/-- whether views are reported at all -/
def reports (p : Snapshot) : Bool := p.adsEnabled

def ingests (p : Snapshot) : Bool := p.adsEnabled && p.confirmationEvents

/-- whether a page may be asked for ads: its URL is https and its host is listed, up to ASCII case -/
def allows (p : Snapshot) (u : Url) : Bool :=
  u.schemeText == "https" && match u.hostText? with
    | none => false
    | some h => p.allowedHosts.any fun allowed => Text.sameIgnoringCase allowed h

end AdConfirm.Policy.Snapshot
