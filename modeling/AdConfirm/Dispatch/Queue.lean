import AdConfirm.Dispatch.Reporter
import AdConfirm.Log

/-!
The queue of ads that await their viewed confirmation.

Entries go to the reporter one at a time, the newest first, on a drain task. The queue claims a drain when an entry is
waiting, none is running and no section is open; the drain goes on until nothing waits or a section opens. Sections hold
dispatch back: what is queued while one is open goes out newest first after the last one closes. A report that fails is
not tried again. When the reporter breaks down the drain dies with it and the entries that wait stay until the next one is
queued or a section closes.
-/

namespace AdConfirm.Dispatch

structure Counters where
  enqueued : Nat
  started : Nat
  succeeded : Nat
  failed : Nat
  deriving DecidableEq

structure Queue where
  stack : Stack
  dispatching : Bool
  sections : Nat
  nextSeq : UInt64
  counters : Counters
  deriving DecidableEq

/-- what happens in a queue -/
inductive Note where
  | queued (e : Entry)
  | started (e : Entry)
  | ended (e : Entry) (o : Outcome)
  deriving DecidableEq

def Note.line? : Note → Option Log.Line
  | .queued e => some ⟨.debug, "queued search result ad viewed event",
      [("seq", toString e.seq), ("creative_instance_id", e.ad.creativeInstanceId)]⟩
  | .started e => some ⟨.debug, "triggering search result ad viewed event",
      [("seq", toString e.seq), ("placement_id", e.ad.placementId)]⟩
  | .ended _ (.recorded placement) =>
    some ⟨.debug, "search result ad viewed event recorded", [("placement_id", placement)]⟩
  | .ended e (.failed fault) => some ⟨.warn, "error during processing of search result ad event",
      [("placement_id", e.ad.placementId), ("error", fault.message)]⟩
  | .ended _ .brokeDown => none

/-- the drain task: about to take an entry, or waiting for the end of a call -/
inductive Drain where
  | start
  | calling (e : Entry) (o : Outcome)
  deriving DecidableEq

/-- what a turn of the drain does: the queue after it, what happened, and how long it waits for what, if it goes on -/
structure DrainTurn where
  queue : Queue
  notes : List Note
  next : Option (Nat × Drain)

namespace Queue

def empty : Queue := ⟨.empty, false, 0, 0, ⟨0, 0, 0, 0⟩⟩

/-- number of entries not handed to the reporter yet -/
def pending (q : Queue) : Nat := q.stack.size

def wantsDrain (q : Queue) : Bool := !q.dispatching && q.sections = 0 && !q.stack.isEmpty

/-- claims the drain when it is due; the answer says whether a drain task has to be spawned -/
def claim (q : Queue) : Queue × Bool := if q.wantsDrain then ({ q with dispatching := true }, true) else (q, false)

/-- the entry that the next ad becomes; the numbers begin anew after the greatest one of 64 bits -/
def entryOf (q : Queue) (ad : AdRecord) : Entry := ⟨q.nextSeq.toNat, ad⟩

def enqueue (q : Queue) (ad : AdRecord) : Queue × Bool :=
  { q with
    stack := q.stack.push (q.entryOf ad)
    nextSeq := q.nextSeq + 1
    counters := { q.counters with enqueued := q.counters.enqueued + 1 } }.claim

def openSection (q : Queue) : Queue := { q with sections := q.sections + 1 }

def closeSection (q : Queue) : Queue × Bool := { q with sections := q.sections - 1 }.claim

/-- takes note of the end of a call -/
def finish (q : Queue) : Outcome → Queue
  | .recorded _ => { q with counters := { q.counters with succeeded := q.counters.succeeded + 1 } }
  | .failed _ => { q with counters := { q.counters with failed := q.counters.failed + 1 } }
  | .brokeDown => { q with dispatching := false }

/-- hands the top entry to the reporter -/
def handOver (q : Queue) (rest : Stack) : Queue :=
  { q with stack := rest, counters := { q.counters with started := q.counters.started + 1 } }

@[simp] theorem stack_finish (q : Queue) (o : Outcome) : (q.finish o).stack = q.stack := by cases o <;> rfl

theorem size_lt_of_pop? {s rest : Stack} {e : Entry} (h : s.pop? = some (e, rest)) : rest.size < s.size := by
  unfold Stack.pop? at h
  split at h
  · simp at h
  · next hs => simp at h; simp [Stack.size, hs, ← h.2]

/-- takes entries and hands them over until a call does not end at once, nothing waits, or a section is open -/
def drain (reporter : Reporter) (limit : Nat) (q : Queue) : DrainTurn :=
  if q.sections > 0 then ⟨{ q with dispatching := false }, [], none⟩
  else match _top : q.stack.pop? with
    | none => ⟨{ q with dispatching := false }, [], none⟩
    | some (e, rest) =>
      let (time, o) := (reporter e).under limit
      let q' := q.handOver rest
      if time = 0 then
        if o = .brokeDown then ⟨q'.finish o, [.started e, .ended e o], none⟩
        else
          let t := drain reporter limit (q'.finish o)
          { t with notes := .started e :: .ended e o :: t.notes }
      else ⟨q', [.started e], some (time, .calling e o)⟩
termination_by q.stack.size
decreasing_by simpa [handOver] using size_lt_of_pop? ‹_›

def turn (reporter : Reporter) (limit : Nat) (q : Queue) : Drain → DrainTurn
  | .start => q.drain reporter limit
  | .calling e o =>
    if o = .brokeDown then ⟨q.finish o, [.ended e o], none⟩
    else
      let t := (q.finish o).drain reporter limit
      { t with notes := .ended e o :: t.notes }

end Queue

end AdConfirm.Dispatch
