/-!
An agenda of cooperative tasks in virtual time.

Tasks that are ready wait in a line and run one after the other; a task runs until it ends or has to wait. A task that
waits for a time is woken at it, a task that waits for an event is woken by name. Time moves only when no task is ready,
and then straight to the next time that a task waits for.

`Loop` adds what a turn of a task does to a larger state, `Loop.settle` lets every ready task run, and `Loop.advance` lets
time pass.
-/

namespace AdConfirm

/-- a task that waits, for a time or (without one) for an event -/
structure Sleeper (τ : Type) where
  due : Option Nat
  task : τ

/-- the time, the ready tasks in line, and the waiting ones in the order they began to wait -/
structure Agenda (τ : Type) where
  now : Nat
  ready : List τ
  asleep : List (Sleeper τ)

namespace Agenda

variable {τ : Type}

def empty : Agenda τ := ⟨0, [], []⟩

def spawn (a : Agenda τ) (t : τ) : Agenda τ := { a with ready := a.ready ++ [t] }

def sleepUntil (a : Agenda τ) (due : Nat) (t : τ) : Agenda τ := { a with asleep := a.asleep ++ [⟨some due, t⟩] }

/-- a task that waits for an event -/
def sleep (a : Agenda τ) (t : τ) : Agenda τ := { a with asleep := a.asleep ++ [⟨none, t⟩] }

/-- wakes the waiting tasks that pass the test -/
def wakeIf (a : Agenda τ) (p : Sleeper τ → Bool) : Agenda τ :=
  { a with ready := a.ready ++ (a.asleep.filter p).map (·.task), asleep := a.asleep.filter fun s => !p s }

/-- whether the time of a sleeper has come -/
def isDue (now : Nat) (s : Sleeper τ) : Bool :=
  match s.due with
  | some d => d ≤ now
  | none => false

/-- the clock set to a time, and every task woken that waited for it -/
def moveTo (a : Agenda τ) (time : Nat) : Agenda τ := { a with now := time }.wakeIf (isDue time)

/-- the next time after now that a task waits for -/
def nextDue? (a : Agenda τ) : Option Nat := ((a.asleep.filterMap (·.due)).filter (a.now < ·)).min?

/-- drops the tasks that pass the test, wherever they are -/
def cancel (a : Agenda τ) (p : τ → Bool) : Agenda τ :=
  { a with ready := a.ready.filter fun t => !p t, asleep := a.asleep.filter fun s => !p s.task }

def isQuiet (a : Agenda τ) : Bool := a.ready.isEmpty

theorem lt_of_nextDue? {a : Agenda τ} {d : Nat} (h : a.nextDue? = some d) : a.now < d := by
  have := List.min?_mem h
  simpa using (List.mem_filter.1 this).2

end Agenda

/-- a state with an agenda in it, and what a turn of a task does to the state -/
structure Loop (σ τ : Type) where
  agenda : σ → Agenda τ
  withAgenda : σ → Agenda τ → σ
  turn : σ → τ → σ
  /-- how many turns it takes at most until no task is ready -/
  turns : σ → Nat

namespace Loop

variable {σ τ : Type} (l : Loop σ τ)

/-- takes the first ready task out of the line and gives it its turn -/
def next? (s : σ) : Option σ :=
  match (l.agenda s).ready with
  | [] => none
  | t :: rest => some (l.turn (l.withAgenda s { l.agenda s with ready := rest }) t)

/-- up to so many turns -/
def runTurns : Nat → σ → σ
  | 0, s => s
  | n + 1, s => match l.next? s with
    | none => s
    | some s => runTurns n s

/-- every ready task runs, first in first out, until none is ready -/
def settle (s : σ) : σ := l.runTurns (l.turns s) s

/-- the clock set to a time, and every task woken that waited for it -/
def moveTo (s : σ) (time : Nat) : σ := l.withAgenda s ((l.agenda s).moveTo time)

/-- lets time pass up to an instant: at each time on the way that a task waits for, every task woken there runs until
none is ready; the tasks due at the instant itself are woken and have not run -/
def passTo (instant : Nat) (s : σ) (now : Nat) : σ :=
  let s := l.settle s
  match ((l.agenda s).nextDue?) with
  | none => l.moveTo s instant
  | some d => if now < d ∧ d < instant then passTo instant (l.moveTo s d) d else l.moveTo s instant
termination_by instant - now
decreasing_by omega

/-- lets time pass, and every task run that is woken meanwhile -/
def advance (s : σ) (ms : Nat) : σ :=
  let now := (l.agenda s).now
  l.settle (l.passTo (now + ms) s now)

end Loop

end AdConfirm
