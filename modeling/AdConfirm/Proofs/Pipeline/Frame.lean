import AdConfirm.Proofs.Pipeline.Line

/-!
What most of the pipeline leaves alone.

Answering requests, taking ads and ending attempts goes on between the tabs and the queue. The policy, the source of documents,
the bus and the tasks are not touched by it, but that a task may be spawned that drains the queue, and only one.

- `Frame`: what is left alone, and which tasks were spawned.
- `resolve_claims`, `answerAll_claims`, `finish_claims`, `request_claims`, `closeSection_claims`: each spawns one drain at most.
- `reset_frame`, `drain_frame`: a reset, and a turn of the queue, spawn nothing.
-/

namespace AdConfirm.Pipeline

open AdConfirm.Tab (Ticket Waiting)

/-- the policy, the documents, the bus, the clock and the tasks are as they were, and these tasks are new -/
structure Frame (p q : Pipeline) (ts : List Task) : Prop where
  center : q.center = p.center
  source : q.source = p.source
  bus : q.bus = p.bus
  agenda : q.agenda = { p.agenda with ready := p.agenda.ready ++ ts }

/-- the drain that is spawned if it was claimed -/
def claimed (isClaimed : Bool) : List Task := if isClaimed then [.drain .start] else []

variable {p q r : Pipeline} {ts us : List Task}

namespace Frame

/-- what differs in the tabs, the queue, the requests, the hooks, the sections and the journal alone -/
theorem of_eq (center : q.center = p.center) (source : q.source = p.source) (bus : q.bus = p.bus)
    (agenda : q.agenda = p.agenda) : Frame p q [] := ⟨center, source, bus, by rw [agenda, List.append_nil]⟩

theorem refl (p : Pipeline) : Frame p p [] := of_eq rfl rfl rfl rfl

theorem trans (h : Frame p q ts) (k : Frame q r us) : Frame p r (ts ++ us) :=
  ⟨k.center.trans h.center, k.source.trans h.source, k.bus.trans h.bus, by rw [k.agenda, h.agenda, List.append_assoc]⟩

theorem note (h : Frame p q ts) (n : Note) : Frame p (q.note n) ts := ⟨h.center, h.source, h.bus, h.agenda⟩

theorem settleRequest (h : Frame p q ts) (key : Nat) (a : Answer) : Frame p (q.settleRequest key a) ts :=
  ⟨h.center, h.source, h.bus, h.agenda⟩

theorem adopt (p : Pipeline) (qu : Dispatch.Queue × Bool) : Frame p (p.adopt qu) (claimed qu.2) := by
  unfold Pipeline.adopt claimed
  split
  · exact ⟨rfl, rfl, rfl, rfl⟩
  · exact of_eq rfl rfl rfl rfl

end Frame

theorem notes_frame (p : Pipeline) (ns : List Dispatch.Note) :
    Frame p (ns.foldl (fun p n => p.note (.dispatch n)) p) [] := by
  induction ns generalizing p with
  | nil => exact .refl p
  | cons n ns ih => exact ((Frame.refl p).note (.dispatch n)).trans (ih _)

theorem adopt_queue (p : Pipeline) (qu : Dispatch.Queue × Bool) : (p.adopt qu).queue = qu.1 := by
  unfold adopt
  split <;> rfl

theorem resolve_claims (p : Pipeline) (tab id : String) : ∃ isClaimed, Frame p (p.resolve tab id).1 (claimed isClaimed) := by
  unfold resolve
  split
  · exact ⟨false, (Frame.refl p).note _⟩
  · next s ad _ =>
    have hs : Frame p { p with sessions := s } [] := .of_eq rfl rfl rfl rfl
    exact ⟨_, ((hs.trans (.adopt _ (p.queue.enqueue ad))).note _).note _⟩

/-- While a section is open, queueing an ad claims no drain. -/
theorem enqueue_held {qu : Dispatch.Queue} (h : 0 < qu.sections) (ad : AdRecord) :
    (qu.enqueue ad).2 = false ∧ (qu.enqueue ad).1.sections = qu.sections := by
  have hne : qu.sections ≠ 0 := Nat.pos_iff_ne_zero.1 h
  simp [Dispatch.Queue.enqueue, Dispatch.Queue.claim, Dispatch.Queue.wantsDrain, hne]

theorem answer_held (isReporting : Bool) (tab : String) (w : Waiting) (h : 0 < p.queue.sections) :
    Frame p (answer isReporting tab p w) [] ∧ (answer isReporting tab p w).queue.sections = p.queue.sections := by
  cases isReporting with
  | false => exact ⟨((Frame.refl p).note _).settleRequest _ _, rfl⟩
  | true =>
    have hresolve : Frame p (p.resolve tab w.ad).1 [] ∧ (p.resolve tab w.ad).1.queue.sections = p.queue.sections := by
      unfold resolve
      split
      · exact ⟨(Frame.refl p).note _, rfl⟩
      · next s ad _ =>
        obtain ⟨hclaim, hsections⟩ := enqueue_held h ad
        have hs : Frame p { p with sessions := s } [] := .of_eq rfl rfl rfl rfl
        have hadopt := Frame.adopt { p with sessions := s } (p.queue.enqueue ad)
        rw [hclaim] at hadopt
        refine ⟨((hs.trans hadopt).note _).note _, ?_⟩
        rw [← hsections]
        exact congrArg Dispatch.Queue.sections (adopt_queue { p with sessions := s } (p.queue.enqueue ad))
    exact ⟨(hresolve.1.note _).settleRequest _ _, hresolve.2⟩

theorem answer_fold_held (isReporting : Bool) (tab : String) (ws : List Waiting) (h : 0 < p.queue.sections) :
    Frame p (ws.foldl (answer isReporting tab) p) [] := by
  induction ws generalizing p with
  | nil => exact .refl p
  | cons w ws ih =>
    obtain ⟨hframe, hsections⟩ := answer_held isReporting tab w h
    exact hframe.trans (ih (hsections ▸ h))

/-- Answering those who waited claims a drain at most once, when all are answered. -/
theorem answerAll_claims (p : Pipeline) (isReporting : Bool) (tab : String) (ws : List Waiting) :
    ∃ isClaimed, Frame p (p.answerAll isReporting tab ws) (claimed isClaimed) := by
  unfold answerAll
  split_ifs
  · exact ⟨false, .refl p⟩
  · have hopen : Frame p { p with queue := p.queue.openSection } [] := .of_eq rfl rfl rfl rfl
    have hfold : Frame { p with queue := p.queue.openSection }
        (ws.foldl (answer isReporting tab) { p with queue := p.queue.openSection }) [] :=
      answer_fold_held isReporting tab ws (Nat.succ_pos _)
    exact ⟨_, (hopen.trans hfold).trans (.adopt _ _)⟩

theorem finish_claims (x : Setup) (p : Pipeline) (t : Ticket) (ads : AdMap) :
    ∃ isClaimed, Frame p (finish x p t ads) (claimed isClaimed) := by
  cases hcurrent : p.sessions.isCurrent t with
  | false =>
    rw [finish_late ads hcurrent]
    exact ⟨false, .of_eq rfl rfl rfl rfl⟩
  | true =>
    have hstocked : Frame p (stocked p t ads) [] := .of_eq rfl rfl rfl rfl
    obtain ⟨isClaimed, hall⟩ := answerAll_claims (stocked p t ads) (x.gate.reports p.center) t.tab (p.line t.tab)
    have hframe := hstocked.trans hall
    rw [finish_eq ads hcurrent]
    exact ⟨isClaimed, hframe.center, hframe.source, hframe.bus, hframe.agenda⟩

theorem request_claims (x : Setup) (p : Pipeline) (tab id : String) :
    ∃ isClaimed, Frame p (Pipeline.request x p tab id).1 (claimed isClaimed) := by
  cases hr : x.gate.reports p.center with
  | false =>
    rw [request_unreported x p tab id hr]
    exact ⟨false, .of_eq rfl rfl rfl rfl⟩
  | true =>
    cases ha : (p.sessions.slot tab).ads with
    | none =>
      rw [request_waits x p id hr ha]
      exact ⟨false, .of_eq rfl rfl rfl rfl⟩
    | some ads =>
      obtain ⟨isClaimed, hframe⟩ := resolve_claims p tab id
      rw [request_ready x p id hr (by rw [ha]; rfl)]
      exact ⟨isClaimed, hframe.center, hframe.source, hframe.bus, hframe.agenda⟩

/-- A turn of the dispatch queue touches the queue and the journal. -/
theorem drain_frame (x : Setup) (p : Pipeline) (d : Dispatch.Drain) : Frame p (p.drain x d) [] := by
  have hqueue : Frame p { p with queue := (p.queue.turn x.reporter x.reportLimit d).queue } [] := .of_eq rfl rfl rfl rfl
  exact hqueue.trans (notes_frame _ _)

theorem reset_frame (p : Pipeline) (tab : String) : Frame p (p.reset tab) [] := by
  have hfold (q : Pipeline) (ws : List Waiting) :
      Frame q (ws.foldl (fun p w => p.settleRequest w.key (.abandoned tab)) q) [] := by
    induction ws generalizing q with
    | nil => exact .refl q
    | cons w ws ih => exact ((Frame.refl q).settleRequest w.key _).trans (ih _)
  have hs : Frame p { p with sessions := (p.sessions.reset tab).1 } [] := .of_eq rfl rfl rfl rfl
  unfold reset
  simp only
  split_ifs
  · exact hs
  · exact (hs.note (.abandoned tab _)).trans (hfold _ _)

theorem closeSection_claims (p : Pipeline) (i : Nat) : ∃ isClaimed, Frame p (p.closeSection i).1 (claimed isClaimed) := by
  unfold closeSection
  split
  · have hs : Frame p { p with sections := p.sections.set i false } [] := .of_eq rfl rfl rfl rfl
    exact ⟨_, hs.trans (.adopt _ p.queue.closeSection)⟩
  · exact ⟨false, .refl p⟩

end AdConfirm.Pipeline
