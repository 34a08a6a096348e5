import AdConfirm.Proofs.History
import AdConfirm.Proofs.Pipeline.Attempt

/-!
What the journal tells of ingestion attempts.

An attempt leaves a note when it begins and is not allowed to ask for its page, when it asks, when its fetch is over, and when
it ends. Nothing else leaves such notes, so the journal of a run tells of ingestion attempts what its events do, with the times.

- `chronicle`: the notes of ingestion attempts, with their times.
- `Event.told`: the notes of an event.
- `perform_chronicle`: an event adds its own notes, and no others.
- `chronicle_play`: the chronicle of a play is what its events told.
-/

namespace AdConfirm.Pipeline

open AdConfirm.Tab (Ticket Waiting)

def Note.isIngestion : Note → Bool
  | .gatedOff _ _ _ | .fetching _ | .fetched _ _ | .cutOff _ _ | .late _ | .stored _ _ _ => true
  | _ => false

/-- the notes of ingestion attempts with their times, the oldest first -/
def chronicle (p : Pipeline) : List (Nat × Note) := p.journal.reverse.filter (·.2.isIngestion)

/-- what an event tells of its ingestion attempt -/
def Event.told (x : Setup) (p : Pipeline) : Event → List Note
  | .begin tab url trigger =>
    if mayAsk x p url trigger then [] else [.gatedOff (p.sessions.begin tab).2 url.print trigger]
  | .ask t => [.fetching t]
  | .arrive t a => [if (p.source.conclude t a).2 then .fetched t (p.source.page? t.tab) else .cutOff t x.fetchLimit]
  | .finish t ads => [if p.sessions.isCurrent t then .stored t ads (p.line t.tab) else .late t]
  | _ => []

def Event.entries (x : Setup) (p : Pipeline) (e : Event) : List (Nat × Note) := (e.told x p).map (p.agenda.now, ·)

variable {x : Setup} {p q : Pipeline}

theorem chronicle_note (p : Pipeline) (n : Note) :
    (p.note n).chronicle = p.chronicle ++ if n.isIngestion then [(p.agenda.now, n)] else [] := by
  simp only [chronicle, note, List.reverse_cons, List.filter_append, List.filter_singleton]
  cases n.isIngestion <;> rfl

theorem chronicle_other (p : Pipeline) {n : Note} (h : n.isIngestion = false) : (p.note n).chronicle = p.chronicle := by
  rw [chronicle_note, h]
  exact List.append_nil _

theorem chronicle_ingestion (p : Pipeline) {n : Note} (h : n.isIngestion = true) :
    (p.note n).chronicle = p.chronicle ++ [(p.agenda.now, n)] := by
  rw [chronicle_note, h]
  rfl

theorem chronicle_congr (h : q.journal = p.journal) : q.chronicle = p.chronicle := by rw [chronicle, chronicle, h]

theorem adopt_chronicle (p : Pipeline) (qu : Dispatch.Queue × Bool) : (p.adopt qu).chronicle = p.chronicle := by
  unfold adopt
  split <;> rfl

/-! ## Answers -/

theorem resolve_chronicle (p : Pipeline) (tab id : String) : (p.resolve tab id).1.chronicle = p.chronicle := by
  unfold resolve
  split
  · exact chronicle_other p rfl
  · next s ad _ =>
    simp only
    rw [chronicle_other _ rfl, chronicle_other _ rfl, adopt_chronicle]
    rfl

theorem answer_chronicle (isReporting : Bool) (tab : String) (p : Pipeline) (w : Waiting) :
    (answer isReporting tab p w).chronicle = p.chronicle := by
  cases isReporting with
  | false => exact chronicle_other p (n := .answered tab w false) rfl
  | true => exact (chronicle_other (p.resolve tab w.ad).1 (n := .answered tab w _) rfl).trans (p.resolve_chronicle tab w.ad)

theorem answer_fold_chronicle (isReporting : Bool) (tab : String) (ws : List Waiting) (p : Pipeline) :
    (ws.foldl (answer isReporting tab) p).chronicle = p.chronicle := by
  induction ws generalizing p with
  | nil => rfl
  | cons w ws ih => exact (ih (answer isReporting tab p w)).trans (answer_chronicle isReporting tab p w)

theorem answerAll_chronicle (p : Pipeline) (isReporting : Bool) (tab : String) (ws : List Waiting) :
    (p.answerAll isReporting tab ws).chronicle = p.chronicle := by
  unfold answerAll
  split_ifs
  · rfl
  · rw [adopt_chronicle, answer_fold_chronicle]
    rfl

/-! ## Events -/

theorem finish_chronicle (x : Setup) (p : Pipeline) (t : Ticket) (ads : AdMap) :
    (finish x p t ads).chronicle = p.chronicle ++ (Event.finish t ads).entries x p := by
  have htold : (Event.finish t ads).entries x p =
      [(p.agenda.now, if p.sessions.isCurrent t then .stored t ads (p.line t.tab) else .late t)] := rfl
  rw [htold]
  cases hcurrent : p.sessions.isCurrent t with
  | false =>
    rw [finish_late ads hcurrent]
    exact chronicle_ingestion { p with sessions := (p.sessions.complete t ads).1 } (n := .late t) rfl
  | true =>
    have hall := answerAll_chronicle (stocked p t ads) (x.gate.reports p.center) t.tab (p.line t.tab)
    rw [finish_eq ads hcurrent]
    exact hall.trans (chronicle_ingestion { p with sessions := (p.sessions.complete t ads).1 }
      (n := .stored t ads (p.line t.tab)) rfl)

theorem request_chronicle (x : Setup) (p : Pipeline) (tab id : String) :
    (Pipeline.request x p tab id).1.chronicle = p.chronicle := by
  cases hr : x.gate.reports p.center with
  | false =>
    rw [request_unreported x p tab id hr]
    exact chronicle_other p (n := .unreported tab id) rfl
  | true =>
    cases ha : (p.sessions.slot tab).ads with
    | none =>
      rw [request_waits x p id hr ha]
      exact chronicle_other p (n := .parked tab ⟨p.requests.length, id⟩) rfl
    | some ads =>
      rw [request_ready x p id hr (by rw [ha]; rfl)]
      exact p.resolve_chronicle tab id

theorem reset_chronicle (p : Pipeline) (tab : String) : (p.reset tab).chronicle = p.chronicle := by
  have hfold (p : Pipeline) (ws : List Waiting) :
      (ws.foldl (fun p w => p.settleRequest w.key (.abandoned tab)) p).chronicle = p.chronicle := by
    induction ws generalizing p with
    | nil => rfl
    | cons w ws ih => exact ih (p.settleRequest w.key (.abandoned tab))
  unfold reset
  simp only
  split_ifs
  · rfl
  · rw [hfold]
    exact chronicle_other p (n := .abandoned tab _) rfl

theorem drain_chronicle (x : Setup) (p : Pipeline) (d : Dispatch.Drain) : (p.drain x d).chronicle = p.chronicle := by
  have hfold (p : Pipeline) (ns : List Dispatch.Note) :
      (ns.foldl (fun p n => p.note (.dispatch n)) p).chronicle = p.chronicle := by
    induction ns generalizing p with
    | nil => rfl
    | cons n ns ih => exact (ih (p.note (.dispatch n))).trans (chronicle_other p rfl)
  exact hfold _ _

/-- **An event tells of its own ingestion attempt**, and of no other. -/
theorem perform_chronicle (x : Setup) (p : Pipeline) (e : Event) :
    (perform x p e).chronicle = p.chronicle ++ e.entries x p := by
  cases e with
  | finish t ads => exact finish_chronicle x p t ads
  | begin tab url trigger =>
    have hadmit : (trigger && x.gate.admits p.center url) = mayAsk x p url trigger := rfl
    simp only [perform, Pipeline.begin, Event.entries, Event.told, hadmit]
    cases mayAsk x p url trigger with
    | false => exact chronicle_ingestion { p with sessions := (p.sessions.begin tab).1 } (n := .gatedOff _ _ _) rfl
    | true => exact (List.append_nil _).symm
  | ask t => exact chronicle_ingestion p (n := .fetching t) rfl
  | arrive t a =>
    have hpage := p.source.conclude_page? t a t.tab
    simp only [perform, Pipeline.arrive, Event.entries, Event.told, hpage]
    cases (p.source.conclude t a).2 with
    | false => exact chronicle_ingestion p (n := .cutOff t x.fetchLimit) rfl
    | true => exact chronicle_ingestion p (n := .fetched t (p.source.page? t.tab)) rfl
  | request tab id => exact (request_chronicle x p tab id).trans (List.append_nil _).symm
  | resolve tab id => exact (p.resolve_chronicle tab id).trans (List.append_nil _).symm
  | reset tab => exact (p.reset_chronicle tab).trans (List.append_nil _).symm
  | drain d => exact (drain_chronicle x p d).trans (List.append_nil _).symm
  | release tab =>
    refine Eq.trans (chronicle_congr ?_) (List.append_nil _).symm
    simp only [perform, Pipeline.release]
    split <;> rfl
  | closeSection i =>
    refine Eq.trans ?_ (List.append_nil _).symm
    simp only [perform, Pipeline.closeSection]
    split
    · exact adopt_chronicle _ _
    · rfl
  | apply s =>
    refine Eq.trans ?_ (List.append_nil _).symm
    have hnoted := chronicle_other { p with center := (p.center.apply p.agenda.now s).1 } (n := .overridden s) rfl
    simp only [perform, Pipeline.apply]
    split <;> exact hnoted
  | publish e =>
    refine Eq.trans (chronicle_congr ?_) (List.append_nil _).symm
    simp only [perform, Pipeline.publish?]
    cases p.bus.publish? e <;> rfl
  | receive =>
    refine Eq.trans ?_ (List.append_nil _).symm
    simp only [perform, Pipeline.receive]
    split
    · exact chronicle_other p rfl
    · rfl
  | _ => exact (List.append_nil _).symm

/-- **The chronicle of a play is what its events told**, each at its time. -/
theorem chronicle_play (x : Setup) (p : Pipeline) (es : List Event) :
    (play x p es).chronicle = p.chronicle ++ yields (fun before e => e.entries x (play x p before)) [] es := by
  induction es using List.reverseRecOn with
  | nil => exact (List.append_nil _).symm
  | append_singleton es e ih =>
    calc (play x p (es ++ [e])).chronicle
      _ = (perform x (play x p es) e).chronicle := by rw [play_snoc]
      _ = (play x p es).chronicle ++ e.entries x (play x p es) := perform_chronicle x (play x p es) e
      _ = p.chronicle ++ yields (fun before e => e.entries x (play x p before)) [] (es ++ [e]) := by
        rw [ih, yields_snoc, List.append_assoc, List.nil_append]

end AdConfirm.Pipeline
