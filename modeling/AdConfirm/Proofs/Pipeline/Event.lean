import AdConfirm.Pipeline.Machine
import AdConfirm.Proofs.Agenda

/-!
The pipeline, event by event.

An event is what happens in one piece: a call from outside, the beginning or the end of an ingestion attempt, a fetch asked
for or over, a delivery read from the bus, a turn of the dispatch queue, an override that expires, or the tasks rearranged
and the clock set. `perform` is what an event does. Every operation, and every turn of a task in it, is nothing but events
(`step_events`), so every run is a play of events in which its operations occur in their order (`run_eq_play`), and no other
calls from outside (`run_calls`).
-/

namespace AdConfirm.Pipeline

open AdConfirm.Loop (Beat)
open AdConfirm.Tab (Ticket)

/-- what can happen to a pipeline in one piece -/
inductive Event where
  | setPage (tab : String) (page : Option WebPage) (d : Delay)
  | release (tab : String)
  | begin (tab : String) (url : Url) (trigger : Bool)
  | ask (t : Ticket)
  | arrive (t : Ticket) (a : Arrival)
  | finish (t : Ticket) (ads : AdMap)
  | request (tab id : String)
  | forget (key : Nat)
  | resolve (tab id : String)
  | reset (tab : String)
  | hook
  | openSection
  | closeSection (i : Nat)
  | apply (s : Policy.OverrideSpec)
  | clear (path : String)
  | expire (path : String)
  | publish (e : TabEvent)
  | receive
  | leave
  | drain (d : Dispatch.Drain)
  | arrange (a : Agenda Task)

def ask (x : Setup) (p : Pipeline) (t : Ticket) : Pipeline :=
  { p.note (.fetching t) with source := (p.source.ask x.fetchLimit t).1 }

def arrive (x : Setup) (p : Pipeline) (t : Ticket) (a : Arrival) : Pipeline :=
  let p' := { p with source := (p.source.conclude t a).1 }
  if (p.source.conclude t a).2 then p'.note (.fetched t (p'.source.page? t.tab)) else p'.note (.cutOff t x.fetchLimit)

/-- takes one delivery from the bus, without following it -/
def receive (p : Pipeline) : Pipeline :=
  match p.bus.receive listener with
  | (bus, .lagged missed) => { p with bus }.note (.lagged missed)
  | (bus, _) => { p with bus }

def drain (x : Setup) (p : Pipeline) (d : Dispatch.Drain) : Pipeline :=
  (p.queue.turn x.reporter x.reportLimit d).notes.foldl (fun p n => p.note (.dispatch n))
    { p with queue := (p.queue.turn x.reporter x.reportLimit d).queue }

def perform (x : Setup) (p : Pipeline) : Event → Pipeline
  | .setPage tab page d => p.setPage tab page d
  | .release tab => p.release tab
  | .begin tab url trigger => (Pipeline.begin x p tab url trigger).1
  | .ask t => Pipeline.ask x p t
  | .arrive t a => Pipeline.arrive x p t a
  | .finish t ads => Pipeline.finish x p t ads
  | .request tab id => (Pipeline.request x p tab id).1
  | .forget key => (p.forget key).1
  | .resolve tab id => (p.resolve tab id).1
  | .reset tab => p.reset tab
  | .hook => p.hook.1
  | .openSection => p.openSection.1
  | .closeSection i => (p.closeSection i).1
  | .apply s => (p.apply s).1
  | .clear path => (p.clear path).1
  | .expire path => { p with center := p.center.expire p.agenda.now path }
  | .publish e => (p.publish? e).getD p
  | .receive => p.receive
  | .leave => { p with bus := (p.bus.unsubscribe listener).1 }
  | .drain d => Pipeline.drain x p d
  | .arrange a => { p with agenda := a }

def play (x : Setup) (p : Pipeline) (es : List Event) : Pipeline := es.foldl (perform x) p

/-- the event that an operation begins with, if it comes from outside -/
def Op.event? : Op → Option Event
  | .setPage tab page d => some (.setPage tab page d)
  | .release tab => some (.release tab)
  | .ingest tab url trigger => some (.begin tab url trigger)
  | .ingestNow tab url trigger => some (.begin tab url trigger)
  | .ingestNever tab url trigger => some (.begin tab url trigger)
  | .request tab id => some (.request tab id)
  | .forget key => some (.forget key)
  | .resolve tab id => some (.resolve tab id)
  | .reset tab => some (.reset tab)
  | .hook => some .hook
  | .openSection => some .openSection
  | .closeSection i => some (.closeSection i)
  | .apply s => some (.apply s)
  | .clear path => some (.clear path)
  | .publish e => some (.publish e)
  | .shutDown => some .leave
  | .settle => none
  | .advance _ => none

/-- whether only the outside makes such an event; the others can come from a task too -/
def Event.isCall : Event → Bool
  | .setPage _ _ _ | .release _ | .request _ _ | .forget _ | .resolve _ _ | .hook | .openSection | .closeSection _ | .apply _
  | .clear _ | .publish _ | .leave => true
  | .begin _ _ _ | .ask _ | .arrive _ _ | .finish _ _ | .reset _ | .expire _ | .receive | .drain _ | .arrange _ => false

variable (x : Setup)

theorem play_append (p : Pipeline) (es fs : List Event) : play x p (es ++ fs) = play x (play x p es) fs :=
  List.foldl_append

theorem play_cons (p : Pipeline) (e : Event) (es : List Event) : play x p (e :: es) = play x (perform x p e) es := rfl

variable {x} in
theorem play_snoc (p : Pipeline) (es : List Event) (e : Event) : play x p (es ++ [e]) = perform x (play x p es) e :=
  play_append x p es [e]

/-! ## Turns of tasks are events -/

/-- one state comes from the other by events of tasks alone -/
def Leads (p q : Pipeline) : Prop := ∃ es, q = play x p es ∧ ∀ e ∈ es, e.isCall = false

variable {x}

theorem Leads.refl (p : Pipeline) : Leads x p p := ⟨[], rfl, by simp⟩

theorem Leads.trans {p q r : Pipeline} (h : Leads x p q) (k : Leads x q r) : Leads x p r := by
  obtain ⟨es, rfl, hes⟩ := h
  obtain ⟨fs, rfl, hfs⟩ := k
  exact ⟨es ++ fs, (play_append x p es fs).symm, fun e he => (List.mem_append.1 he).elim (hes e) (hfs e)⟩

theorem Leads.event {p q : Pipeline} (h : Leads x p q) (e : Event) (he : e.isCall = false := by rfl) :
    Leads x p (perform x q e) :=
  h.trans ⟨[e], rfl, by simpa using he⟩

variable (x)

/-- The end of a fetch changes no document. -/
theorem Source.conclude_page? (s : Source) (t : Ticket) (a : Arrival) (tab : String) :
    (s.conclude t a).1.page? tab = s.page? tab := by
  cases a with
  | ifReleased =>
    simp only [conclude]
    split <;> rfl
  | _ => rfl

/-- Ending a fetch and then the attempt, with the ads of the document if it arrived. -/
theorem conclude_eq (p : Pipeline) (t : Ticket) (a : Arrival) :
    conclude x p t a =
      finish x (arrive x p t a) t (if (p.source.conclude t a).2 then adsOfPage (p.source.page? t.tab) else Table.empty) := by
  rw [← p.source.conclude_page? t a t.tab]
  unfold conclude arrive
  generalize p.source.conclude t a = c
  obtain ⟨source, hasArrived⟩ := c
  cases hasArrived <;> rfl

theorem conclude_leads (p : Pipeline) (t : Ticket) (a : Arrival) : Leads x p (conclude x p t a) := by
  rw [conclude_eq]
  exact ((Leads.refl p).event (.arrive t a)).event (.finish t _)

theorem proceed_leads (p : Pipeline) (t : Ticket) (s : Stage) : Leads x p (proceed x p t s).1 := by
  cases s with
  | begun isAdmitted =>
    cases isAdmitted with
    | false => exact (Leads.refl p).event (.finish t Table.empty)
    | true =>
      have h : Leads x p (ask x p t) := (Leads.refl p).event (.ask t)
      simp only [proceed]
      split
      · exact h.trans (conclude_leads x (ask x p t) t _)
      · exact h
  | fetching a => exact conclude_leads x p t a

theorem follow_leads (p : Pipeline) (e : TabEvent) : Leads x p (follow x p e) := by
  cases e with
  | loaded tab url trigger => exact ((Leads.refl p).event (.begin tab url trigger)).event (.arrange _)
  | navigated tab => exact (Leads.refl p).event (.reset tab)
  | closed tab => exact (Leads.refl p).event (.reset tab)

theorem listen_leads (n : Nat) (p : Pipeline) : Leads x p (listen x n p).1 := by
  induction n generalizing p with
  | zero => exact Leads.refl p
  | succ n ih =>
    have h : Leads x p p.receive := (Leads.refl p).event .receive
    unfold receive at h
    unfold listen
    split
    · next bus e hr =>
      rw [hr] at h
      exact (h.trans (follow_leads x _ e)).trans (ih _)
    · next bus missed hr =>
      rw [hr] at h
      exact h.trans (ih _)
    · exact Leads.refl p
    · exact Leads.refl p

theorem turn_leads (p : Pipeline) (t : Task) : Leads x p (turn x p t) := by
  cases t with
  | drain d =>
    have h : Leads x p (p.drain x d) := (Leads.refl p).event (.drain d)
    unfold drain at h
    simp only [turn]
    split
    · exact h
    · exact h.event (.arrange _)
  | timer e =>
    cases e with
    | set path ttl => exact (Leads.refl p).event (.arrange _)
    | due path => exact (Leads.refl p).event (.expire path)
  | ingest t s =>
    have h := proceed_leads x p t s
    simp only [turn]
    split
    · next hp => rwa [hp] at h
    · next hp =>
      rw [hp] at h
      exact h.event (.arrange _)
  | listen =>
    have h := listen_leads x deliveriesPerTurn p
    simp only [turn]
    split
    · exact h.event (.arrange _)
    · exact h.event (.arrange _)

theorem beat_leads (p : Pipeline) (b : Beat) : Leads x p ((loop x).beat p b) := by
  cases b with
  | turn =>
    simp only [Loop.beat, Loop.next?]
    split
    · exact Leads.refl p
    · next t rest _ => exact ((Leads.refl p).event (.arrange _)).trans (turn_leads x _ t)
  | moveTo time => exact (Leads.refl p).event (.arrange (p.agenda.moveTo time))

theorem beats_leads (p : Pipeline) (bs : List Beat) : Leads x p ((loop x).beats p bs) := by
  induction bs generalizing p with
  | nil => exact Leads.refl p
  | cons b bs ih => exact (beat_leads x p b).trans (ih _)

theorem settle_leads (p : Pipeline) : Leads x p ((loop x).settle p) := by
  obtain ⟨bs, h⟩ := (loop x).settle_beats p
  exact h ▸ beats_leads x p bs

theorem advance_leads (p : Pipeline) (ms : Nat) : Leads x p ((loop x).advance p ms) := by
  obtain ⟨bs, h⟩ := (loop x).advance_beats p ms
  exact h ▸ beats_leads x p bs

theorem passTo_leads (instant : Nat) (p : Pipeline) (now : Nat) : Leads x p ((loop x).passTo instant p now) := by
  obtain ⟨bs, h⟩ := (loop x).passTo_beats instant p now
  exact h ▸ beats_leads x p bs

/-! ## Operations are events -/

theorem ingestNow_leads (p : Pipeline) (tab : String) (url : Url) (trigger : Bool) :
    Leads x (perform x p (.begin tab url trigger)) (ingestNow x p tab url trigger) := by
  simp only [perform, ingestNow]
  generalize begin x p tab url trigger = begun
  obtain ⟨p', t, isAdmitted⟩ := begun
  have h := proceed_leads x p' t (.begun isAdmitted)
  simp only
  split
  · next hp => rwa [hp] at h
  · next hp =>
    rw [hp] at h
    exact (h.trans (passTo_leads x _ _ _)).trans (proceed_leads x _ _ _)

/-- An operation is the event it comes from outside as, and events of tasks after that. -/
theorem step_leads (p : Pipeline) (o : Op) : Leads x ((o.event?.map (perform x p)).getD p) (step x p o) := by
  cases o with
  | ingest tab url trigger => exact (Leads.refl _).event (.arrange _)
  | ingestNow tab url trigger => exact ingestNow_leads x p tab url trigger
  | shutDown => exact ((Leads.refl (perform x p .leave)).event (.arrange (p.agenda.cancel isListen))).trans (settle_leads x _)
  | settle => exact settle_leads x p
  | advance ms => exact advance_leads x p ms
  | _ => exact Leads.refl _

theorem step_events (p : Pipeline) (o : Op) :
    ∃ es, step x p o = play x p (o.event?.toList ++ es) ∧ ∀ e ∈ es, e.isCall = false := by
  obtain ⟨es, h, hes⟩ := step_leads x p o
  refine ⟨es, ?_, hes⟩
  rw [h, play_append]
  cases o.event? with
  | none => rfl
  | some e => rfl

/-- A run is a play of events, in which its operations occur in their order, and no other calls from outside. -/
theorem run_calls (p : Pipeline) (ops : List Op) :
    ∃ es, run x p ops = play x p es ∧ (ops.filterMap Op.event?).Sublist es ∧
      es.filter Event.isCall = (ops.filterMap Op.event?).filter Event.isCall := by
  induction ops generalizing p with
  | nil => exact ⟨[], rfl, List.Sublist.refl _, rfl⟩
  | cons o ops ih =>
    obtain ⟨es, h, hes⟩ := step_events x p o
    obtain ⟨fs, h', hs, hcalls⟩ := ih (step x p o)
    have hnone : es.filter Event.isCall = [] := List.filter_eq_nil_iff.2 fun e he => by simp [hes e he]
    have hops : (o :: ops).filterMap Op.event? = o.event?.toList ++ ops.filterMap Op.event? := by
      cases ho : o.event? <;> simp [ho]
    refine ⟨o.event?.toList ++ es ++ fs, ?_, ?_, ?_⟩
    · rw [play_append, ← h, ← h']
      rfl
    · rw [hops, List.append_assoc]
      exact (List.Sublist.refl _).append (hs.trans (List.sublist_append_right es fs))
    · rw [hops, List.filter_append, List.filter_append, List.filter_append, hnone, hcalls, List.append_nil]

/-- **A run is a play of events.** The operations that come from outside occur in it, in their order. -/
theorem run_eq_play (p : Pipeline) (ops : List Op) :
    ∃ es, run x p ops = play x p es ∧ (ops.filterMap Op.event?).Sublist es := by
  obtain ⟨es, h, hs, -⟩ := run_calls x p ops
  exact ⟨es, h, hs⟩

end AdConfirm.Pipeline
