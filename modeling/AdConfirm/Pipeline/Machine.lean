import AdConfirm.Pipeline.Basic

/-!
The ad pipeline as its tasks take turns, and everything that can be done to it from outside.

Its clock begins at zero; a pipeline that is set up later is one that lets time pass first.
-/

namespace AdConfirm.Pipeline

open AdConfirm.Tab (Ticket)

/-- the task that follows tab events takes at most so many deliveries in one turn, so that others get theirs -/
def deliveriesPerTurn : Nat := 128

/-- takes up to so many deliveries from the bus and follows them, and tells whether it took them all; missing some events is
no reason to stop -/
def listen (x : Setup) : Nat → Pipeline → Pipeline × Bool
  | 0, p => (p, true)
  | n + 1, p =>
    match p.bus.receive listener with
    | (bus, .event e) => listen x n (follow x { p with bus } e)
    | (bus, .lagged missed) => listen x n ({ p with bus }.note (.lagged missed))
    | (_, .nothing) => (p, false)
    | (_, .left) => (p, false)

def turn (x : Setup) (p : Pipeline) : Task → Pipeline
  | .drain d =>
    let t := p.queue.turn x.reporter x.reportLimit d
    let p := t.notes.foldl (fun p n => p.note (.dispatch n)) { p with queue := t.queue }
    match t.next with
    | none => p
    | some (time, d) => { p with agenda := p.agenda.sleepUntil (p.agenda.now + time) (.drain d) }
  | .timer (.set path ttl) =>
    { p with agenda := p.agenda.sleepUntil (p.agenda.now + 1000 * ttl) (.timer (.due path)) }
  | .timer (.due path) => { p with center := p.center.expire p.agenda.now path }
  | .ingest t s =>
    match proceed x p t s with
    | (p, none) => p
    | (p, some (time, s)) => { p with agenda := p.agenda.sleepUntil (p.agenda.now + time) (.ingest t s) }
  | .listen =>
    let (p, tookAll) := listen x deliveriesPerTurn p
    if tookAll then p.spawn .listen else { p with agenda := p.agenda.sleep .listen }

/-- how many turns a ready task may take, those of the tasks it makes ready included: an ingestion can start a drain, and
an event can start an ingestion and be one of those after which the listener goes to the end of the line -/
def turnsOf (p : Pipeline) : Task → Nat
  | .drain _ => 1
  | .timer _ => 1
  | .ingest _ _ => 2
  | .listen => 1 + 3 * p.bus.backlog listener

def loop (x : Setup) : Loop Pipeline Task where
  agenda := Pipeline.agenda
  withAgenda p a := { p with agenda := a }
  turn := turn x
  turns p := p.agenda.ready.foldr (fun t n => turnsOf p t + n) 0

/-- begins an ingestion attempt and waits for its end. The attempt goes first whenever it is its turn; while it waits, time
passes and all other tasks take theirs. -/
def ingestNow (x : Setup) (p : Pipeline) (tab : String) (url : Url) (trigger : Bool) : Pipeline :=
  let (p, t, isAdmitted) := begin x p tab url trigger
  match proceed x p t (.begun isAdmitted) with
  | (p, none) => p
  | (p, some (time, s)) =>
    let now := p.agenda.now
    (proceed x ((loop x).passTo (now + time) p now) t s).1

/-- begins an ingestion attempt that is never run -/
def ingestNever (x : Setup) (p : Pipeline) (tab : String) (url : Url) (trigger : Bool) : Pipeline :=
  (begin x p tab url trigger).1

/-- gives a tab a document, if there is one, and sets how long fetches of the tab wait -/
def setPage (p : Pipeline) (tab : String) (page : Option WebPage) (d : Delay) : Pipeline :=
  let source := match page with
    | some page => p.source.setPage tab page
    | none => p.source
  { p with source := source.setDelay tab d }

/-- whether a task waits for the document of an attempt -/
def isFetch (t : Ticket) : Task → Bool
  | .ingest u (.fetching _) => u = t
  | _ => false

def isListen : Task → Bool
  | .listen => true
  | _ => false

/-- lets a held fetch of a tab go on -/
def release (p : Pipeline) (tab : String) : Pipeline :=
  let (source, t) := p.source.release tab
  let p := { p with source }
  match t with
  | none => p
  | some t => { p with agenda := p.agenda.wakeIf fun s => isFetch t s.task }

/-- sets a hook, and returns its number -/
def hook (p : Pipeline) : Pipeline × Nat := ({ p with hooks := p.hooks ++ [none] }, p.hooks.length)

/-- opens a section that holds dispatch back, and returns its number -/
def openSection (p : Pipeline) : Pipeline × Nat :=
  ({ p with queue := p.queue.openSection, sections := p.sections ++ [true] }, p.sections.length)

/-- closes a section; false if it was closed before, or there is none -/
def closeSection (p : Pipeline) (i : Nat) : Pipeline × Bool :=
  if p.sections[i]? = some true then
    ({ p with sections := p.sections.set i false }.adopt p.queue.closeSection, true)
  else (p, false)

def apply (p : Pipeline) (s : Policy.OverrideSpec) : Pipeline × Except Policy.ApplyFault Unit :=
  let (c, r) := p.center.apply p.agenda.now s
  let p := { p with center := c }.note (.overridden s)
  match r with
  | .error e => (p, .error e)
  | .ok none => (p, .ok ())
  | .ok (some timer) => (p.spawn (.timer timer), .ok ())

/-- takes an override of the policy back; false if there is none -/
def clear (p : Pipeline) (path : String) : Pipeline × Except Policy.PolicyError Bool :=
  let (c, r) := p.center.clear p.agenda.now path
  ({ p with center := c }, r)

/-- publishes a tab event; none if nobody follows the bus -/
def publish? (p : Pipeline) (e : TabEvent) : Option Pipeline :=
  (p.bus.publish? e).map fun bus => { p with bus, agenda := p.agenda.wakeIf fun s => isListen s.task }

/-- stops following tab events, and lets all tasks run; false if it was stopped before -/
def shutDown (x : Setup) (p : Pipeline) : Pipeline × Bool :=
  let (bus, wasListening) := p.bus.unsubscribe listener
  ((loop x).settle { p with bus, agenda := p.agenda.cancel isListen }, wasListening)

/-- what can be done to a pipeline -/
inductive Op where
  | setPage (tab : String) (page : Option WebPage) (d : Delay)
  | release (tab : String)
  | ingest (tab : String) (url : Url) (trigger : Bool)
  | ingestNow (tab : String) (url : Url) (trigger : Bool)
  | ingestNever (tab : String) (url : Url) (trigger : Bool)
  | request (tab id : String)
  | forget (key : Nat)
  | resolve (tab id : String)
  | reset (tab : String)
  | hook
  | openSection
  | closeSection (i : Nat)
  | apply (s : Policy.OverrideSpec)
  | clear (path : String)
  | publish (e : TabEvent)
  | shutDown
  | settle
  | advance (ms : Nat)

def step (x : Setup) (p : Pipeline) : Op → Pipeline
  | .setPage tab page d => p.setPage tab page d
  | .release tab => p.release tab
  | .ingest tab url trigger => Pipeline.ingest x p tab url trigger
  | .ingestNow tab url trigger => Pipeline.ingestNow x p tab url trigger
  | .ingestNever tab url trigger => Pipeline.ingestNever x p tab url trigger
  | .request tab id => (Pipeline.request x p tab id).1
  | .forget key => (p.forget key).1
  | .resolve tab id => (p.resolve tab id).1
  | .reset tab => p.reset tab
  | .hook => p.hook.1
  | .openSection => p.openSection.1
  | .closeSection i => (p.closeSection i).1
  | .apply s => (p.apply s).1
  | .clear path => (p.clear path).1
  | .publish e => (p.publish? e).getD p
  | .shutDown => (Pipeline.shutDown x p).1
  | .settle => (loop x).settle p
  | .advance ms => (loop x).advance p ms

def run (x : Setup) (p : Pipeline) (ops : List Op) : Pipeline := ops.foldl (step x) p

end AdConfirm.Pipeline
