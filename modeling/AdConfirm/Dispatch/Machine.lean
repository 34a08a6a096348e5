import AdConfirm.Agenda
import AdConfirm.Dispatch.Queue

/-!
A dispatch queue on its own: the queue, the sections handed out, its drain tasks in virtual time, and a journal of all
that happened, newest first.
-/

namespace AdConfirm.Dispatch

structure Machine where
  queue : Queue
  guards : List Bool
  agenda : Agenda Drain
  journal : List (Nat × Note)

/-- what can be done to a queue -/
inductive Op where
  | enqueue (ad : AdRecord)
  | openSection
  | closeSection (i : Nat)
  | settle
  | advance (ms : Nat)

namespace Machine

def empty : Machine := ⟨.empty, [], .empty, []⟩

def record (m : Machine) (notes : List Note) : Machine :=
  { m with journal := (notes.map fun n => (m.agenda.now, n)).reverse ++ m.journal }

/-- takes over the queue, and spawns a drain if one was claimed -/
def adopt (m : Machine) (q : Queue × Bool) : Machine :=
  { m with queue := q.1, agenda := if q.2 then m.agenda.spawn .start else m.agenda }

def turn (reporter : Reporter) (limit : Nat) (m : Machine) (d : Drain) : Machine :=
  let t := m.queue.turn reporter limit d
  let m := { m with queue := t.queue }.record t.notes
  match t.next with
  | none => m
  | some (time, d) => { m with agenda := m.agenda.sleepUntil (m.agenda.now + time) d }

/-- how drain tasks take turns: none makes another one ready -/
def loop (reporter : Reporter) (limit : Nat) : Loop Machine Drain where
  agenda := Machine.agenda
  withAgenda m a := { m with agenda := a }
  turn := turn reporter limit
  turns m := m.agenda.ready.length

def enqueue (m : Machine) (ad : AdRecord) : Machine :=
  (m.adopt (m.queue.enqueue ad)).record [.queued (m.queue.entryOf ad)]

def openSection (m : Machine) : Machine := { m with queue := m.queue.openSection, guards := m.guards ++ [true] }

/-- closes a section; one that is closed already stays so -/
def closeSection (m : Machine) (i : Nat) : Machine :=
  if m.guards[i]? = some true then { m with guards := m.guards.set i false }.adopt m.queue.closeSection else m

def step (reporter : Reporter) (limit : Nat) (m : Machine) : Op → Machine
  | .enqueue ad => m.enqueue ad
  | .openSection => m.openSection
  | .closeSection i => m.closeSection i
  | .settle => (loop reporter limit).settle m
  | .advance ms => (loop reporter limit).advance m ms

def run (reporter : Reporter) (limit : Nat) (ops : List Op) : Machine := ops.foldl (step reporter limit) empty

end Machine

end AdConfirm.Dispatch
