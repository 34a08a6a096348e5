import AdConfirm.Ad.Record

/-!
Ads that wait for their viewed confirmation, the newest on top.
-/

namespace AdConfirm.Dispatch

/-- an ad to confirm, with its number in the order of arrival -/
structure Entry where
  seq : Nat
  ad : AdRecord
  deriving DecidableEq

/-- entries, the top first -/
structure Stack where
  entries : List Entry
  deriving DecidableEq

namespace Stack

def empty : Stack := ⟨[]⟩

def push (s : Stack) (e : Entry) : Stack := ⟨e :: s.entries⟩

def pop? (s : Stack) : Option (Entry × Stack) :=
  match s.entries with
  | [] => none
  | e :: rest => some (e, ⟨rest⟩)

def size (s : Stack) : Nat := s.entries.length

def isEmpty (s : Stack) : Bool := s.entries.isEmpty

end Stack

end AdConfirm.Dispatch
