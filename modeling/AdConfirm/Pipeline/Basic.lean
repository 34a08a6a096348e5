import AdConfirm.Agenda
import AdConfirm.Bus
import AdConfirm.Pipeline.Gate
import AdConfirm.Pipeline.Note
import AdConfirm.Pipeline.Source

/-!
The ad pipeline of all tabs: tab sessions, the dispatch queue, the requests for viewed confirmations and what becomes of
them, and the tasks that are under way.

A request asks for the confirmation of an ad. It is answered at once if the ads of its tab are known, otherwise when an
ingestion of the tab completes, in order of arrival; resetting the tab abandons it. An ingestion attempt fetches the page
of its tab, if the gate admitted it when it began, stores the ads and answers whoever waits. Every attempt that ends fires
the hooks set since the last one did.
-/

namespace AdConfirm

open AdConfirm.Tab (Sessions Ticket Waiting)

namespace Pipeline

/-- what does not change while a pipeline runs; limits are in milliseconds -/
structure Setup where
  gate : Gate
  fetchLimit : Nat
  reportLimit : Nat
  reporter : Dispatch.Reporter

namespace Setup

/-- limits unless a policy sets them -/
def withoutPolicy (gate : Gate) (reporter : Dispatch.Reporter) : Setup := ⟨gate, 10000, 30000, reporter⟩

def ofPolicy (p : Policy.Snapshot) (gate : Gate) (reporter : Dispatch.Reporter) : Setup :=
  ⟨gate, p.fetchTimeout.toNat, p.reportTimeout.toNat, reporter⟩

end Setup

/-- what has become of a request; who made it may have stopped waiting -/
inductive Answer where
  | waiting
  | decided (triggered : Bool)
  | abandoned (tab : String)
  | forgotten
  deriving DecidableEq

def Answer.abandonedMessage (tab : String) : String := "viewed event request abandoned for tab " ++ tab

/-- what the browser tells about a tab -/
inductive TabEvent where
  | loaded (tab : String) (url : Url) (trigger : Bool)
  | navigated (tab : String)
  | closed (tab : String)

/-- how far an ingestion attempt is: begun, or waiting for its document -/
inductive Stage where
  | begun (isAdmitted : Bool)
  | fetching (a : Arrival)
  deriving DecidableEq

inductive Task where
  | drain (d : Dispatch.Drain)
  | timer (e : Policy.Expiry)
  | ingest (t : Ticket) (s : Stage)
  | listen

end Pipeline

/-- a pipeline as it is at some time; the journal has the latest note first -/
structure Pipeline where
  sessions : Sessions
  queue : Dispatch.Queue
  center : Policy.Center
  source : Pipeline.Source
  bus : Bus Pipeline.TabEvent
  requests : List Pipeline.Answer
  hooks : List (Option String)
  sections : List Bool
  agenda : Agenda Pipeline.Task
  journal : List (Nat × Pipeline.Note)

namespace Pipeline

/-- the number by which the task that follows tab events reads the bus -/
def listener : Nat := 0

/-- nothing has happened; with a bus if a capacity is given, and a task then that follows it -/
def start (c : Policy.Center) (capacity : Option Nat) : Pipeline :=
  let p : Pipeline := ⟨.empty, .empty, c, .empty, .ofCapacity (capacity.getD 1), [], [], [], .empty, []⟩
  if capacity.isSome then { p with bus := p.bus.subscribe.1, agenda := p.agenda.spawn .listen } else p

def note (p : Pipeline) (n : Note) : Pipeline := { p with journal := (p.agenda.now, n) :: p.journal }

def spawn (p : Pipeline) (t : Task) : Pipeline := { p with agenda := p.agenda.spawn t }

/-- takes over the queue, and spawns a drain if one was claimed -/
def adopt (p : Pipeline) (q : Dispatch.Queue × Bool) : Pipeline :=
  let p := { p with queue := q.1 }
  if q.2 then p.spawn (.drain .start) else p

/-- moves an ad from its tab to the queue; false if the tab does not have it -/
def resolve (p : Pipeline) (tab id : String) : Pipeline × Bool :=
  match p.sessions.take tab id with
  | (_, none) => (p.note (.missed tab id), false)
  | (s, some ad) =>
    let e := p.queue.entryOf ad
    let p := { p with sessions := s }.adopt (p.queue.enqueue ad)
    ((p.note (.dispatch (.queued e))).note (.taken tab id e.seq), true)

/-- settles a request that still waits; to who stopped waiting it makes no difference -/
def settleRequest (p : Pipeline) (key : Nat) (a : Answer) : Pipeline :=
  { p with requests := p.requests.modify key fun old => if old = .waiting then a else old }

/-- asks for the confirmation of an ad; the number of the request -/
def request (x : Setup) (p : Pipeline) (tab id : String) : Pipeline × Nat :=
  let key := p.requests.length
  let add (p : Pipeline) (a : Answer) : Pipeline := { p with requests := p.requests ++ [a] }
  let p :=
    if !x.gate.reports p.center then add (p.note (.unreported tab id)) (.decided false)
    else
      let w : Waiting := ⟨key, id⟩
      match p.sessions.park tab w with
      | (s, .parked) => add ({ p with sessions := s }.note (.parked tab w)) .waiting
      | (_, .ready) =>
        let (p, triggered) := p.resolve tab id
        add p (.decided triggered)
  (p, key)

/-- stops waiting for a request; false if it was settled before, or there is none -/
def forget (p : Pipeline) (key : Nat) : Pipeline × Bool :=
  (p.settleRequest key .forgotten, p.requests[key]? == some .waiting)

/-- answers a request that waited for the ads of its tab -/
def answer (isReporting : Bool) (tab : String) (p : Pipeline) (w : Waiting) : Pipeline :=
  let (p, triggered) := if isReporting then p.resolve tab w.ad else (p, false)
  (p.note (.answered tab w triggered)).settleRequest w.key (.decided triggered)

/-- answers requests in their order; nothing is dispatched in between -/
def answerAll (isReporting : Bool) (tab : String) (p : Pipeline) (ws : List Waiting) : Pipeline :=
  if ws.isEmpty then p
  else
    let p := ws.foldl (answer isReporting tab) { p with queue := p.queue.openSection }
    p.adopt p.queue.closeSection

def fireHooks (p : Pipeline) (tab : String) : Pipeline := { p with hooks := p.hooks.map fun h => some (h.getD tab) }

/-- ends an ingestion attempt with the ads it found -/
def finish (x : Setup) (p : Pipeline) (t : Ticket) (ads : AdMap) : Pipeline :=
  let (s, r) := p.sessions.complete t ads
  let p := { p with sessions := s }
  let p := match r with
    | .error _ => p.note (.late t)
    | .ok released => (p.note (.stored t ads released)).answerAll (x.gate.reports p.center) t.tab released
  p.fireHooks t.tab

/-- the ads of a document, if there is one -/
def adsOfPage (page : Option WebPage) : AdMap := (page.map adsOf).getD Table.empty

/-- ends the fetch of an attempt, and the attempt -/
def conclude (x : Setup) (p : Pipeline) (t : Ticket) (a : Arrival) : Pipeline :=
  let (source, hasArrived) := p.source.conclude t a
  let p := { p with source }
  if hasArrived then
    let page := source.page? t.tab
    finish x (p.note (.fetched t page)) t (adsOfPage page)
  else finish x (p.note (.cutOff t x.fetchLimit)) t Table.empty

/-- begins an ingestion attempt: its ticket, and whether the gate admits it -/
def begin (x : Setup) (p : Pipeline) (tab : String) (url : Url) (trigger : Bool) : Pipeline × Ticket × Bool :=
  let (s, t) := p.sessions.begin tab
  let p := { p with sessions := s }
  let isAdmitted := trigger && x.gate.admits p.center url
  (if isAdmitted then p else p.note (.gatedOff t url.print trigger), t, isAdmitted)

/-- runs an attempt until it ends or has to wait; for how long it waits then, and at which stage -/
def proceed (x : Setup) (p : Pipeline) (t : Ticket) : Stage → Pipeline × Option (Nat × Stage)
  | .begun false => (finish x p t Table.empty, none)
  | .begun true =>
    let p := p.note (.fetching t)
    let (source, time, a) := p.source.ask x.fetchLimit t
    let p := { p with source }
    if time = 0 then (conclude x p t a, none) else (p, some (time, .fetching a))
  | .fetching a => (conclude x p t a, none)

/-- begins an ingestion attempt, to be run by a task of its own -/
def ingest (x : Setup) (p : Pipeline) (tab : String) (url : Url) (trigger : Bool) : Pipeline :=
  let (p, t, isAdmitted) := begin x p tab url trigger
  p.spawn (.ingest t (.begun isAdmitted))

/-- forgets a tab; requests that wait for its ads are abandoned -/
def reset (p : Pipeline) (tab : String) : Pipeline :=
  let (s, dropped) := p.sessions.reset tab
  let p := { p with sessions := s }
  if dropped.isEmpty then p
  else dropped.foldl (fun p w => p.settleRequest w.key (.abandoned tab)) (p.note (.abandoned tab dropped))

def follow (x : Setup) (p : Pipeline) : TabEvent → Pipeline
  | .loaded tab url trigger => ingest x p tab url trigger
  | .navigated tab => p.reset tab
  | .closed tab => p.reset tab

end Pipeline

end AdConfirm
