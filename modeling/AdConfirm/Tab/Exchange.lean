import AdConfirm.Tab.Sessions

/-!
Tab sessions together with the parties at both ends of a request: whoever made it and waits for an answer, and whoever
was handed it back and is to answer it. An answer is read once; a request that is dropped unanswered closes the wait.
-/

namespace AdConfirm.Tab

/-- what the maker of a request can see -/
inductive Reply where
  | waiting
  | answered (b : Bool)
  | closed
  | gone
  deriving DecidableEq

/-- sessions, the attempts begun, the replies by the keys of their requests, and the requests handed back -/
structure Exchange where
  sessions : Sessions
  tickets : List Ticket
  replies : List Reply
  returned : List (Option Waiting)

namespace Exchange

def empty : Exchange := ⟨.empty, [], [], []⟩

/-- brings an outcome to a reply that still waits -/
def settle (x : Exchange) (key : Nat) (r : Reply) : Exchange :=
  { x with replies := x.replies.modify key fun old => if old = .waiting then r else old }

/-- begins an attempt and keeps its ticket -/
def begin (x : Exchange) (tab : String) : Exchange × Ticket :=
  let (s, t) := x.sessions.begin tab
  ({ x with sessions := s, tickets := x.tickets ++ [t] }, t)

/-- completes an attempt; the requests handed back are kept to be answered -/
def complete (x : Exchange) (t : Ticket) (ads : AdMap) : Exchange × Except StaleTicket (List Waiting) :=
  let (s, r) := x.sessions.complete t ads
  let back := match r with
    | .ok released => released.map some
    | .error _ => []
  ({ x with sessions := s, returned := x.returned ++ back }, r)

/-- makes a request, which waits or comes straight back -/
def park (x : Exchange) (tab ad : String) : Exchange × Parking :=
  let w : Waiting := ⟨x.replies.length, ad⟩
  let (s, r) := x.sessions.park tab w
  ({ x with
      sessions := s
      replies := x.replies ++ [.waiting]
      returned := x.returned ++ (if r = .ready then [some w] else []) }, r)

/-- answers a request that was handed back; false if there is none, or it was answered -/
def answer (x : Exchange) (i : Nat) (b : Bool) : Exchange × Bool :=
  match x.returned[i]? with
  | some (some w) => ({ x with returned := x.returned.set i none }.settle w.key (.answered b), true)
  | _ => (x, false)

/-- what the maker of a request sees when looking; an answer seen is gone afterwards -/
def poll (x : Exchange) (i : Nat) : Exchange × Reply :=
  let seen := x.replies[i]?.getD .gone
  match seen with
  | .answered _ => ({ x with replies := x.replies.set i .closed }, seen)
  | _ => (x, seen)

/-- the maker of a request stops waiting; false if it had stopped before, or there is none -/
def drop (x : Exchange) (i : Nat) : Exchange × Bool :=
  match x.replies[i]? with
  | none => (x, false)
  | some .gone => (x, false)
  | some _ => ({ x with replies := x.replies.set i .gone }, true)

def take (x : Exchange) (tab id : String) : Exchange × Option AdRecord :=
  let (s, r) := x.sessions.take tab id
  ({ x with sessions := s }, r)

/-- forgets a tab; whoever waits on it will see that nothing comes -/
def reset (x : Exchange) (tab : String) : Exchange × List Waiting :=
  let (s, dropped) := x.sessions.reset tab
  (dropped.foldl (fun y w => y.settle w.key .closed) { x with sessions := s }, dropped)

end Exchange

end AdConfirm.Tab
