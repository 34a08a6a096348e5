import AdConfirm.Ad.Record
import AdConfirm.Log

/-!
Sessions of tabs: the ads of a tab once an ingestion has run, and the viewed requests that wait until one has.

An ingestion attempt is known by its ticket. Beginning an attempt makes every earlier one of the tab stale, and so does
resetting the tab; only the ticket of the current attempt can store ads, and only once.
-/

namespace AdConfirm.Tab

/-- an ingestion attempt of a tab -/
structure Ticket where
  tab : String
  attempt : Nat
  deriving DecidableEq

/-- a viewed request that waits for the ads of its tab; the key tells it from all others -/
structure Waiting where
  key : Nat
  ad : String
  deriving DecidableEq

/-- what is known of one tab -/
structure Slot where
  inFlight : Option Nat
  ads : Option AdMap
  pending : List Waiting

/-- a tab that nothing is known of -/
def Slot.fresh : Slot := ⟨none, none, []⟩

/-- what the sessions count; `tabs` and `pending` are gauges, the others only grow -/
structure Metrics where
  tabs : Nat
  pending : Int
  adsStored : Nat
  staleCompletions : Nat
  abandonedRequests : Nat
  deriving DecidableEq

/-- the sessions of all tabs -/
structure Sessions where
  slots : Table Slot
  attempts : Nat
  metrics : Metrics

/-- why a completion is refused -/
structure StaleTicket where
  ticket : Ticket
  deriving DecidableEq

def StaleTicket.message (e : StaleTicket) : String :=
  "stale ingestion ticket " ++ toString e.ticket.attempt ++ " for tab " ++ e.ticket.tab

/-- where a viewed request went: it waits now, or it can be resolved at once -/
inductive Parking where
  | parked
  | ready
  deriving DecidableEq

namespace Sessions

def empty : Sessions := ⟨Table.empty, 0, ⟨0, 0, 0, 0, 0⟩⟩

def slot (s : Sessions) (tab : String) : Slot := (s.slots.find? tab).getD Slot.fresh

def tabCount (s : Sessions) : Nat := s.slots.size

def countTabs (s : Sessions) : Sessions := { s with metrics := { s.metrics with tabs := s.slots.size } }

/-- begins an ingestion attempt; the ads of the tab stay -/
def begin (s : Sessions) (tab : String) : Sessions × Ticket :=
  let attempt := s.attempts + 1
  ({ s with slots := s.slots.insert tab { s.slot tab with inFlight := some attempt }, attempts := attempt }.countTabs,
    ⟨tab, attempt⟩)

/-- whether the ticket is that of the tab's current attempt -/
def isCurrent (s : Sessions) (t : Ticket) : Bool := (s.slot t.tab).inFlight == some t.attempt

/-- stores the ads of an attempt and hands back the requests that waited for them, in order of arrival -/
def complete (s : Sessions) (t : Ticket) (ads : AdMap) : Sessions × Except StaleTicket (List Waiting) :=
  if s.isCurrent t then
    let released := (s.slot t.tab).pending
    ({ s with
        slots := s.slots.insert t.tab ⟨none, some ads, []⟩
        metrics := { s.metrics with
          adsStored := s.metrics.adsStored + ads.size
          pending := s.metrics.pending - released.length } },
      .ok released)
  else
    ({ s with metrics := { s.metrics with staleCompletions := s.metrics.staleCompletions + 1 } }, .error ⟨t⟩)

/-- lets a request wait, unless the ads of its tab are known -/
def park (s : Sessions) (tab : String) (w : Waiting) : Sessions × Parking :=
  let slot := s.slot tab
  if slot.ads.isSome then (s, .ready)
  else
    ({ s with
        slots := s.slots.insert tab { slot with pending := slot.pending ++ [w] }
        metrics := { s.metrics with pending := s.metrics.pending + 1 } }.countTabs,
      .parked)

/-- takes an ad out of the map of its tab -/
def take (s : Sessions) (tab id : String) : Sessions × Option AdRecord :=
  match (s.slot tab).ads with
  | none => (s, none)
  | some ads =>
    match ads.find? id with
    | none => (s, none)
    | some ad => ({ s with slots := s.slots.insert tab { s.slot tab with ads := some (ads.erase id) } }, some ad)

/-- forgets a tab; returns the requests that waited, which nobody will answer -/
def reset (s : Sessions) (tab : String) : Sessions × List Waiting :=
  match s.slots.find? tab with
  | none => (s, [])
  | some slot =>
    let n := slot.pending.length
    let s := { s with slots := s.slots.erase tab }.countTabs
    ({ s with metrics := { s.metrics with
        pending := s.metrics.pending - n
        abandonedRequests := s.metrics.abandonedRequests + n } },
      slot.pending)

/-- whether the ads of a tab are known, be it that it has none -/
def hasAds (s : Sessions) (tab : String) : Bool := (s.slot tab).ads.isSome

/-- number of ads that can still be taken -/
def adCount (s : Sessions) (tab : String) : Option Nat := (s.slot tab).ads.map Table.size

/-- whether an ad can still be taken -/
def containsAd (s : Sessions) (tab id : String) : Bool := ((s.slot tab).ads.map (·.contains id)).getD false

/-- number of requests that wait -/
def pendingCount (s : Sessions) (tab : String) : Nat := (s.slot tab).pending.length

end Sessions

def waitsLine (tab ad : String) : Log.Line :=
  ⟨.debug, "viewed event request waits for ingestion", [("tab", tab), ("creative_instance_id", ad)]⟩

def storedLine (tab : String) (released : Nat) : Log.Line :=
  ⟨.debug, "search result ad ingestion stored", [("tab", tab), ("pending", toString released)]⟩

def droppedLine (tab : String) (count : Nat) : Log.Line :=
  ⟨.debug, "dropped pending viewed event requests", [("tab", tab), ("abandoned", toString count)]⟩

def parkingLines (tab ad : String) : Parking → List Log.Line
  | .parked => [waitsLine tab ad]
  | .ready => []

def completionLines (tab : String) : Except StaleTicket (List Waiting) → List Log.Line
  | .ok released => [storedLine tab released.length]
  | .error _ => []

def resetLines (tab : String) (dropped : List Waiting) : List Log.Line :=
  if dropped.isEmpty then [] else [droppedLine tab dropped.length]

end AdConfirm.Tab
