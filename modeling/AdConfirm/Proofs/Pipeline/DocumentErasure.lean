import AdConfirm.Proofs.Pipeline.Erasure

/-!
A pipeline without its documents.

Documents are given to tabs from outside and come with fetches. Nothing looks at them but the end of a fetch, and there only the
ads that are handed to the end of the attempt. So all that happens to a pipeline happens in the same way to the pipeline without
its documents, once it is said with which ads an attempt ends.

- `erased`: a pipeline without its documents, neither those that tabs have nor those of which the journal tells. `documents`: this
  is an erasure.
- `perform_erased`: an event does to the one what it does to the other.
- `perform_alike`: so two pipelines that differ in documents alone still do so after the same event.
-/

namespace AdConfirm.Pipeline

open AdConfirm.Tab (Ticket Waiting)

def Source.erased (s : Source) : Source := { s with pages := .empty }

def Note.erased : Note → Note
  | .fetched t _ => .fetched t none
  | n => n

def erased (p : Pipeline) : Pipeline :=
  { p with source := p.source.erased, journal := p.journal.map fun n => (n.1, n.2.erased) }

/-- the event without the document that it gives to a tab, if it does -/
def Event.erased : Event → Event
  | .setPage tab _ d => .setPage tab none d
  | e => e

/-- the documents are erased -/
def documents : Erasure where
  source := Source.erased
  bus := id
  agenda := id
  note n := some n.erased
  now _ := rfl
  spawn _ _ _ := rfl
  sleepUntil _ _ _ _ := rfl
  own n h := by cases n <;> first | rfl | cases h
  foreign n m h hm := by
    obtain rfl := Option.some.inj hm
    cases n <;> first | rfl | cases h

theorem erased_eq : erased = documents.erase := by
  funext p
  simp [erased, Erasure.erase, documents]

/-! ## The source -/

section Source

variable (x : Setup) (p : Pipeline)

theorem Source.erased_conclude (s : Source) (t : Ticket) (a : Arrival) :
    s.erased.conclude t a = ((s.conclude t a).1.erased, (s.conclude t a).2) := by
  cases a with
  | ifReleased =>
    have hreleased : s.erased.released = s.released := rfl
    unfold conclude
    rw [hreleased]
    split_ifs <;> rfl
  | _ => rfl

theorem erased_arrive (t : Ticket) (a : Arrival) : (arrive x p t a).erased = arrive x p.erased t a := by
  have hsource : p.erased.source.conclude t a = _ := p.source.erased_conclude t a
  unfold arrive
  rw [hsource]
  cases (p.source.conclude t a).2 <;> rfl

theorem Source.erased_ask (s : Source) (limit : Nat) (t : Ticket) :
    s.erased.ask limit t = ((s.ask limit t).1.erased, (s.ask limit t).2) := by
  have hdelay : s.erased.delay t.tab = s.delay t.tab := rfl
  have hpermits : s.erased.permits = s.permits := rfl
  unfold ask
  rw [hdelay, hpermits]
  cases s.delay t.tab with
  | none => rfl
  | after ms =>
    simp only
    split_ifs <;> rfl
  | endless => rfl
  | held =>
    simp only
    split_ifs <;> rfl

theorem Source.erased_release (s : Source) (tab : String) :
    s.erased.release tab = ((s.release tab).1.erased, (s.release tab).2) := by
  have hheld : s.erased.held = s.held := rfl
  have hpermits : s.erased.permits = s.permits := rfl
  unfold release
  rw [hheld, hpermits]
  split
  · rfl
  · split_ifs <;> rfl

end Source

/-! ## Events -/

/-- **An event does to a pipeline what it does to the pipeline without documents.** -/
theorem perform_erased (x : Setup) (p : Pipeline) (e : Event) : (perform x p e).erased = perform x p.erased e.erased := by
  cases e with
  | setPage tab page d => cases page <;> rfl
  | finish t ads => exact erased_eq ▸ documents.erase_finish x p t ads
  | arrive t a => exact erased_arrive x p t a
  | ask t =>
    simp only [perform, ask, Event.erased]
    rw [show p.erased.source = p.source.erased from rfl, Source.erased_ask]
    rfl
  | request tab id => exact erased_eq ▸ documents.erase_request x p tab id
  | resolve tab id => exact erased_eq ▸ (documents.erase_resolve p tab id).1
  | reset tab => exact erased_eq ▸ documents.erase_reset p tab
  | drain d => exact erased_eq ▸ documents.erase_drain x p d
  | begin tab url trigger => exact erased_eq ▸ (documents.erase_begin x p tab url trigger).1
  | release tab =>
    have hsource : p.erased.source.release tab = _ := p.source.erased_release tab
    simp only [perform, Pipeline.release, Event.erased, hsource]
    cases (p.source.release tab).2 <;> rfl
  | closeSection i =>
    have hsections : p.erased.sections = p.sections := rfl
    simp only [perform, Pipeline.closeSection, Event.erased, hsections]
    split
    · exact erased_eq ▸ documents.erase_adopt { p with sections := p.sections.set i false } _
    · rfl
  | apply s =>
    have hcenter : p.erased.center = p.center := rfl
    have hagenda : p.erased.agenda = p.agenda := rfl
    simp only [perform, Pipeline.apply, Event.erased, hcenter, hagenda]
    split <;> rfl
  | publish e =>
    have hbus : p.erased.bus = p.bus := rfl
    simp only [perform, Pipeline.publish?, Event.erased, hbus]
    cases p.bus.publish? e <;> rfl
  | receive =>
    have hbus : p.erased.bus = p.bus := rfl
    simp only [perform, Pipeline.receive, Event.erased, hbus]
    split <;> rfl
  | _ => rfl

/-- What a tab event asks for is done to the one as to the other. -/
theorem erased_follow (x : Setup) (p : Pipeline) (e : TabEvent) : (follow x p e).erased = follow x p.erased e := by
  exact erased_eq ▸ documents.erase_follow x p e

/-- Two pipelines that differ in documents alone still do after the same event. -/
theorem perform_alike {x : Setup} {p p' : Pipeline} {e e' : Event} (h : p.erased = p'.erased) (he : e.erased = e'.erased) :
    (perform x p e).erased = (perform x p' e').erased := by
  rw [perform_erased, perform_erased, h, he]

end AdConfirm.Pipeline
