import AdConfirm.Ad.Markup
import AdConfirm.Ad.Report
import AdConfirm.Dispatch.Queue
import AdConfirm.Policy.Center
import AdConfirm.Tab.Sessions

/-!
What happens in the ad pipeline, one note for each event, and the log lines that each makes.
-/

namespace AdConfirm.Pipeline

open AdConfirm.Tab (Ticket Waiting)

inductive Note where
  | gatedOff (t : Ticket) (url : String) (trigger : Bool)
  | fetching (t : Ticket)
  | fetched (t : Ticket) (page : Option WebPage)
  | cutOff (t : Ticket) (limit : Nat)
  | late (t : Ticket)
  | stored (t : Ticket) (ads : AdMap) (released : List Waiting)
  | unreported (tab id : String)
  | parked (tab : String) (w : Waiting)
  | taken (tab id : String) (seq : Nat)
  | missed (tab id : String)
  | answered (tab : String) (w : Waiting) (triggered : Bool)
  | abandoned (tab : String) (dropped : List Waiting)
  | lagged (events : Nat)
  | overridden (s : Policy.OverrideSpec)
  | dispatch (n : Dispatch.Note)

namespace Note

def adFields (tab id : String) : List (String × String) := [("tab", tab), ("creative_instance_id", id)]

def boolText (b : Bool) : String := if b then "true" else "false"

def lines : Note → List Log.Line
  | .gatedOff t url trigger => [⟨.debug, "search result ad ingestion gated off",
      [("tab", t.tab), ("url", url), ("should_trigger", boolText trigger)]⟩]
  | .fetching _ => []
  | .fetched t none => [⟨.debug, "no structured data for search result ads", [("tab", t.tab)]⟩]
  | .fetched _ (some p) => pageLines p
  | .cutOff t limit => [⟨.warn, "search result ad metadata fetch timed out",
      [("tab", t.tab), ("timeout_ms", toString limit)]⟩]
  | .late t => [⟨.debug, "discarding late search result ad ingestion",
      [("error", (Tab.StaleTicket.mk t).message)]⟩]
  | .stored t ads released => [Tab.storedLine t.tab released.length,
      ⟨.debug, "search result ads ingested",
        [("tab", t.tab), ("ads", toString ads.size), ("pending", toString released.length)]⟩]
  | .unreported tab id => [⟨.debug, "ads disabled; viewed event not triggered", adFields tab id⟩]
  | .parked tab w => [Tab.waitsLine tab w.ad]
  | .taken tab id seq => [⟨.debug, "search result ad viewed event queued", adFields tab id ++ [("seq", toString seq)]⟩]
  | .missed tab id => [⟨.debug, "no search result ad to confirm", adFields tab id⟩]
  | .answered tab w triggered => [⟨.debug, "answered waiting viewed event request",
      adFields tab w.ad ++ [("triggered", boolText triggered)]⟩]
  | .abandoned tab dropped => [Tab.droppedLine tab dropped.length,
      ⟨.info, "abandoned search result ad viewed requests",
        [("tab", tab), ("abandoned", toString dropped.length)]⟩]
  | .lagged events => [⟨.warn, "tab event ingest lagged behind the bus", [("skipped", toString events)]⟩]
  | .overridden s => Policy.Center.applyLines s
  | .dispatch n => n.line?.toList

end Note

end AdConfirm.Pipeline
