import AdConfirm.Page.Document
import AdConfirm.Tab.Sessions

/-!
The source of page documents, as an ingestion attempt meets it: a fetch takes some time, or is held back until it is
released, or never ends; and it has a time limit. A fetch that ends just at its limit is not cut off. Which document a tab
has is looked up at the end of the wait.

A fetch that fails is one that finds no document: this is what a source undertakes to answer then, and what is relied on. A fetch
that breaks down cannot be expressed.
-/

namespace AdConfirm.Pipeline

open AdConfirm.Tab (Ticket)

/-- how long a fetch waits -/
inductive Delay where
  | none
  | after (ms : Nat)
  | held
  | endless
  deriving DecidableEq

/-- how a fetch that waits is going to end: the document arrives, the fetch is cut off, or that depends on its release -/
inductive Arrival where
  | arrives
  | cutOff
  | ifReleased
  deriving DecidableEq

/-- documents and delays of tabs, the tabs whose next held fetch passes at once, and the held fetches, oldest first: those
that wait and those released since -/
structure Source where
  pages : Table WebPage
  delays : Table Delay
  permits : List String
  held : List Ticket
  released : List Ticket

namespace Source

def empty : Source := ⟨Table.empty, Table.empty, [], [], []⟩

def page? (s : Source) (tab : String) : Option WebPage := s.pages.find? tab

def setPage (s : Source) (tab : String) (p : WebPage) : Source := { s with pages := s.pages.insert tab p }

/-- sets how long fetches of a tab wait from now on -/
def setDelay (s : Source) (tab : String) (d : Delay) : Source := { s with delays := s.delays.insert tab d }

/-- how long fetches of a tab wait -/
def delay (s : Source) (tab : String) : Delay := (s.delays.find? tab).getD .none

/-- begins a fetch: how long it waits at most, and how it is going to end -/
def ask (s : Source) (limit : Nat) (t : Ticket) : Source × Nat × Arrival :=
  match s.delay t.tab with
  | .none => (s, 0, .arrives)
  | .after ms => if ms ≤ limit then (s, ms, .arrives) else (s, limit, .cutOff)
  | .endless => (s, limit, .cutOff)
  | .held =>
    if s.permits.contains t.tab then ({ s with permits := s.permits.filter (· ≠ t.tab) }, 0, .arrives)
    else if limit = 0 then (s, 0, .cutOff)
    else ({ s with held := s.held ++ [t] }, limit, .ifReleased)

/-- ends a fetch: whether the document arrives -/
def conclude (s : Source) (t : Ticket) : Arrival → Source × Bool
  | .arrives => (s, true)
  | .cutOff => (s, false)
  | .ifReleased =>
    if s.released.contains t then ({ s with released := s.released.filter (· ≠ t) }, true)
    else ({ s with held := s.held.filter (· ≠ t) }, false)

/-- lets the oldest held fetch of a tab go on, or else the next one; permits do not add up -/
def release (s : Source) (tab : String) : Source × Option Ticket :=
  match s.held.find? (·.tab == tab) with
  | some t => ({ s with held := s.held.filter (· ≠ t), released := s.released ++ [t] }, some t)
  | none => (if s.permits.contains tab then s else { s with permits := tab :: s.permits }, none)

end Source

end AdConfirm.Pipeline
