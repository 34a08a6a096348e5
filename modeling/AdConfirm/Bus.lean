/-!
A broadcast bus with a bounded memory.

Every subscriber gets every event published after it subscribed, in order, unless it falls further behind than the bus
remembers; then it is told first how many events it missed and goes on with the oldest one remembered. Without subscribers
there is nobody to publish to.
-/

namespace AdConfirm

/-- all events ever published, and for each subscriber how many of them it has passed (none once it has left) -/
structure Bus (α : Type) where
  capacity : Nat
  sent : List α
  readers : List (Option Nat)

/-- what a subscriber gets when it asks for the next event -/
inductive Delivery (α : Type) where
  | event (a : α)
  | nothing
  | lagged (missed : Nat)
  | left
  deriving DecidableEq

namespace Bus

variable {α : Type}

def closedMessage : String := "event bus publish failed: channel closed"

/-- a bus that remembers at least so many events: the capacity is rounded up to a power of two -/
def ofCapacity (capacity : Nat) : Bus α := ⟨(max capacity 1).nextPowerOfTwo, [], []⟩

/-- a new subscriber, and its index -/
def subscribe (b : Bus α) : Bus α × Nat := ({ b with readers := b.readers ++ [some b.sent.length] }, b.readers.length)

def subscribers (b : Bus α) : Nat := (b.readers.filter Option.isSome).length

def publish? (b : Bus α) (a : α) : Option (Bus α) :=
  if b.subscribers = 0 then none else some { b with sent := b.sent ++ [a] }

/-- position of the oldest event remembered -/
def oldest (b : Bus α) : Nat := b.sent.length - b.capacity

/-- the next event for a subscriber -/
def receive (b : Bus α) (i : Nat) : Bus α × Delivery α :=
  match b.readers[i]? with
  | some (some position) =>
    if position < b.oldest then
      ({ b with readers := b.readers.set i (some b.oldest) }, .lagged (b.oldest - position))
    else match b.sent[position]? with
      | none => (b, .nothing)
      | some a => ({ b with readers := b.readers.set i (some (position + 1)) }, .event a)
  | _ => (b, .left)

/-- a subscriber leaves; false if it had left before, or there is none -/
def unsubscribe (b : Bus α) (i : Nat) : Bus α × Bool :=
  match b.readers[i]? with
  | some (some _) => ({ b with readers := b.readers.set i none }, true)
  | _ => (b, false)

/-- how many events are published that a subscriber has not passed -/
def backlog (b : Bus α) (i : Nat) : Nat :=
  match b.readers[i]? with
  | some (some position) => b.sent.length - position
  | _ => 0

end Bus

end AdConfirm
