import AdConfirm.Cli.Command
import AdConfirm.Json.Printer
import AdConfirm.Pipeline.Machine

/-!
Replaying a document: it is served as the page of one tab, ingested once, and the views of some ads are requested. The
reporter is prompt, so no time passes.
-/

namespace AdConfirm.Cli

open AdConfirm.Json (Tree)
open AdConfirm.Pipeline (Setup)

/-- the report of a replay: how many ads the tab had after the ingestion, what became of each view, and what was
dispatched -/
structure ReplayReport where
  tab : String
  adsIngested : Nat
  views : List (String × Pipeline.Answer)
  dispatched : Nat
  dispatchFailures : Nat

/-- the member that says whether a view was confirmed -/
def triggeredTree : Pipeline.Answer → Tree
  | .decided b => .bool b
  | _ => .null

/-- the member that says why there is no answer to a view -/
def faultTree : Pipeline.Answer → Tree
  | .abandoned tab => .ofString (Pipeline.Answer.abandonedMessage tab)
  | _ => .null

def ReplayReport.toTree (r : ReplayReport) : Tree :=
  .ofFields [("tab", .ofString r.tab), ("ads_ingested", .ofNat r.adsIngested),
    ("views", .array (r.views.map fun v => .ofFields [("creative_instance_id", .ofString v.1),
      ("triggered", triggeredTree v.2), ("error", faultTree v.2)])),
    ("dispatched", .ofNat r.dispatched), ("dispatch_failures", .ofNat r.dispatchFailures)]

def requestAll (x : Setup) (tab : String) (views : List String) (p : Pipeline) : Pipeline :=
  views.foldl (fun p id => (p.request x tab id).1) p

/-- requests the views in a section, so that they go out newest first -/
def requestTogether (x : Setup) (tab : String) (views : List String) (p : Pipeline) : Pipeline :=
  let (p, section_) := p.openSection
  ((requestAll x tab views p).closeSection section_).1

def replaySetup (policy : Policy.Snapshot) : Setup := .ofPolicy policy (.fixed policy) Dispatch.Reporter.prompt

/-- replays a document; the report, and the pipeline at the end -/
def replay (policy : Policy.Snapshot) (page : WebPage) (url : Url) (c : ReplayCommand) (tab : String) :
    ReplayReport × Pipeline :=
  let x := replaySetup policy
  let p := (Pipeline.start (.ofSnapshot policy) none).setPage tab (some page) .none
  let p := if c.isEarly then requestAll x tab c.views p else p
  let p := p.ingestNow x tab url c.trigger
  let ads := (p.sessions.adCount tab).getD 0
  let p := if c.isEarly then p else requestTogether x tab c.views p
  let p := (Pipeline.loop x).settle p
  (⟨tab, ads, c.views.zip p.requests, p.queue.counters.succeeded, p.queue.counters.failed⟩, p)

end AdConfirm.Cli
