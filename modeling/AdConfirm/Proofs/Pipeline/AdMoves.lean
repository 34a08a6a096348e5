import AdConfirm.Proofs.Dispatch.Play
import AdConfirm.Proofs.Pipeline.Request
import AdConfirm.Proofs.Tab.Taken

/-!
Ads on their way from a tab to the queue, and what the journal tells of it.

An ad leaves its tab for the queue in one way only, `resolve`: for a request that is answered at once, for one that waited
until the ads of its tab were stored, and by itself.

- `resolve_moved`: what one move does.
- `answer_moved`, `answer_fold_late`: how one who waited is answered, and all of them.
- `request_requested`: what a request leaves.
- `finish_stages`: an accepted completion stores its ads, and then answers those who waited.
- `perform_quiet`: an event that is no request, no move, no reset and no accepted completion leaves all ads where they are.
-/

namespace AdConfirm.Pipeline

open AdConfirm.Tab (Ticket Waiting Sessions)
open AdConfirm.Tab.Sessions (accepts_iff isCurrent_iff)

/-- whether a note tells of an ad that left its tab for the queue, or of the answer to a request that waited -/
def Note.isOfAd : Note → Bool
  | .taken _ _ _ | .answered _ _ _ | .dispatch (.queued _) => true
  | _ => false

/-- the notes of ads that left their tabs and of requests that waited and were answered, the oldest first -/
def adNotes (p : Pipeline) : List Note := (p.journal.reverse.map Prod.snd).filter Note.isOfAd

/-- all entries ever queued, the oldest first -/
def queuedEntries (p : Pipeline) : List Dispatch.Entry :=
  p.adNotes.filterMap fun n => match n with
    | .dispatch (.queued e) => some e
    | _ => none

/-- the tab and the id of every ad that ever left its tab for the queue, and the number of its entry, the oldest first -/
def takenAds (p : Pipeline) : List (String × String × Nat) :=
  p.adNotes.filterMap fun n => match n with
    | .taken tab id seq => some (tab, id, seq)
    | _ => none

/-- the requests that waited and were answered, and their answers, the oldest first; who made them may have given up -/
def lateAnswers (p : Pipeline) : List (Nat × Bool) :=
  p.adNotes.filterMap fun n => match n with
    | .answered _ w triggered => some (w.key, triggered)
    | _ => none

/-- all ads are where they were; entries of the queue may have gone to the reporter -/
structure Kept (p q : Pipeline) : Prop where
  queued : q.queuedEntries = p.queuedEntries
  taken : q.takenAds = p.takenAds
  ads : ∀ tab id, q.sessions.ad? tab id = p.sessions.ad? tab id
  count : q.queue.counters.enqueued = p.queue.counters.enqueued
  rest : q.queue.stack.entries.Sublist p.queue.stack.entries

/-- all ads are where they were, and nobody who waited was answered -/
structure Quiet (p q : Pipeline) : Prop where
  adNotes : q.adNotes = p.adNotes
  ads : ∀ tab id, q.sessions.ad? tab id = p.sessions.ad? tab id
  count : q.queue.counters.enqueued = p.queue.counters.enqueued
  rest : q.queue.stack.entries.Sublist p.queue.stack.entries

/-- what the tab has under the id went to the queue, if it has something there -/
structure Moved (p : Pipeline) (tab id : String) (q : Pipeline) : Prop where
  adNotes : q.adNotes = p.adNotes ++ (p.sessions.ad? tab id).elim [] fun ad =>
    [.dispatch (.queued (p.queue.entryOf ad)), .taken tab id (p.queue.entryOf ad).seq]
  ads : ∀ j i, q.sessions.ad? j i = if tab = j ∧ id = i then none else p.sessions.ad? j i
  count : q.queue.counters.enqueued = p.queue.counters.enqueued + (p.sessions.ad? tab id).isSome.toNat
  stack : q.queue.stack.entries = ((p.sessions.ad? tab id).map p.queue.entryOf).toList ++ p.queue.stack.entries

variable {x : Setup} {p q r : Pipeline}

theorem adNotes_note (p : Pipeline) (n : Note) : (p.note n).adNotes = p.adNotes ++ if n.isOfAd then [n] else [] := by
  simp only [adNotes, note, List.reverse_cons, List.map_append, List.filter_append, List.map_singleton, List.filter_singleton]
  cases n.isOfAd <;> rfl

namespace Quiet

theorem refl (p : Pipeline) : Quiet p p := ⟨rfl, fun _ _ => rfl, rfl, .refl _⟩

theorem trans (h : Quiet p q) (k : Quiet q r) : Quiet p r :=
  ⟨k.adNotes.trans h.adNotes, fun tab id => (k.ads tab id).trans (h.ads tab id), k.count.trans h.count, k.rest.trans h.rest⟩

theorem of_eq (journal : q.journal = p.journal) (sessions : q.sessions = p.sessions)
    (count : q.queue.counters.enqueued = p.queue.counters.enqueued)
    (stack : q.queue.stack = p.queue.stack := by rfl) : Quiet p q :=
  ⟨by rw [Pipeline.adNotes, Pipeline.adNotes, journal], fun _ _ => by rw [sessions], count, by rw [stack]⟩

theorem note (p : Pipeline) (n : Note) (h : n.isOfAd = false := by rfl) : Quiet p (p.note n) :=
  ⟨by rw [adNotes_note, h]; simp, fun _ _ => rfl, rfl, .refl _⟩

theorem sessions {s : Sessions} (h : ∀ tab id, s.ad? tab id = p.sessions.ad? tab id) :
    Quiet p { p with sessions := s } := ⟨rfl, h, rfl, .refl _⟩

theorem settled (p : Pipeline) (key : Nat) (a : Answer) : Quiet p (p.settleRequest key a) := .of_eq rfl rfl rfl

/-- a queue that claims a drain, or does not, queues nothing by that -/
theorem adopt_claim (p : Pipeline) {qu : Dispatch.Queue} (count : qu.counters.enqueued = p.queue.counters.enqueued)
    (stack : qu.stack = p.queue.stack) : Quiet p (p.adopt qu.claim) := by
  unfold adopt Dispatch.Queue.claim
  split_ifs <;> exact of_eq rfl rfl count stack

theorem lateAnswers (h : Quiet p q) : q.lateAnswers = p.lateAnswers := by
  rw [Pipeline.lateAnswers, Pipeline.lateAnswers, h.adNotes]

theorem kept (h : Quiet p q) : Kept p q :=
  ⟨by rw [queuedEntries, queuedEntries, h.adNotes], by rw [takenAds, takenAds, h.adNotes], h.ads, h.count, h.rest⟩

end Quiet

theorem Kept.trans (h : Kept p q) (k : Kept q r) : Kept p r :=
  ⟨k.queued.trans h.queued, k.taken.trans h.taken, fun tab id => (k.ads tab id).trans (h.ads tab id),
    k.count.trans h.count, k.rest.trans h.rest⟩

theorem Kept.answered (p : Pipeline) (tab : String) (w : Waiting) (b : Bool) : Kept p (p.note (.answered tab w b)) := by
  refine ⟨?_, ?_, fun _ _ => rfl, rfl, .refl _⟩
  · rw [queuedEntries, adNotes_note, List.filterMap_append]
    simp [queuedEntries, Note.isOfAd]
  · rw [takenAds, adNotes_note, List.filterMap_append]
    simp [takenAds, Note.isOfAd]

theorem lateAnswers_answered (p : Pipeline) (tab : String) (w : Waiting) (b : Bool) :
    (p.note (.answered tab w b)).lateAnswers = p.lateAnswers ++ [(w.key, b)] := by
  rw [lateAnswers, adNotes_note, List.filterMap_append]
  simp [lateAnswers, Note.isOfAd]

/-! ## Moves -/

theorem resolve_of_none {tab id : String} (h : p.sessions.ad? tab id = none) :
    p.resolve tab id = (p.note (.missed tab id), false) := by
  rw [← Sessions.take_result] at h
  unfold resolve
  split
  · rfl
  · next s ad hs =>
    rw [hs] at h
    cases h

theorem resolve_of_some {tab id : String} {ad : AdRecord} (h : p.sessions.ad? tab id = some ad) :
    p.resolve tab id =
      (((({ p with sessions := (p.sessions.take tab id).1 } : Pipeline).adopt (p.queue.enqueue ad)).note
        (.dispatch (.queued (p.queue.entryOf ad)))).note (.taken tab id (p.queue.entryOf ad).seq), true) := by
  rw [← Sessions.take_result] at h
  unfold resolve
  split
  · next s hs =>
    rw [hs] at h
    cases h
  · next s ad' hs =>
    rw [hs] at h ⊢
    cases h
    rfl

theorem adopt_enqueue (p : Pipeline) (ad : AdRecord) :
    (p.adopt (p.queue.enqueue ad)).adNotes = p.adNotes ∧
      (p.adopt (p.queue.enqueue ad)).queue.counters.enqueued = p.queue.counters.enqueued + 1 ∧
      (p.adopt (p.queue.enqueue ad)).queue.stack.entries = p.queue.entryOf ad :: p.queue.stack.entries := by
  unfold adopt Dispatch.Queue.enqueue Dispatch.Queue.claim
  split_ifs <;> exact ⟨rfl, rfl, rfl⟩

theorem resolve_moved (p : Pipeline) (tab id : String) : Moved p tab id (p.resolve tab id).1 := by
  have hads : ∀ j i, (p.resolve tab id).1.sessions.ad? j i = if tab = j ∧ id = i then none else p.sessions.ad? j i := by
    intro j i
    rw [resolve_sessions, Sessions.take_ad?]
  cases h : p.sessions.ad? tab id with
  | none =>
    rw [resolve_of_none h] at hads ⊢
    refine ⟨?_, hads, ?_, ?_⟩
    · rw [adNotes_note, h]
      rfl
    · rw [h]
      rfl
    · rw [h]
      rfl
  | some ad =>
    obtain ⟨adNotes, count, stack⟩ := adopt_enqueue { p with sessions := (p.sessions.take tab id).1 } ad
    rw [resolve_of_some h] at hads ⊢
    refine ⟨?_, hads, ?_, ?_⟩
    · rw [adNotes_note, adNotes_note, h, List.append_assoc]
      exact congrArg (· ++ _) adNotes
    · rw [h]
      exact count
    · rw [h]
      exact stack

/-- whether a move found the ad -/
theorem resolve_isSome (p : Pipeline) (tab id : String) : (p.resolve tab id).2 = (p.sessions.ad? tab id).isSome := by
  rw [resolve_result, Sessions.containsAd_eq]

namespace Moved

variable {tab id : String}

theorem queuedEntries (h : Moved p tab id q) :
    q.queuedEntries = p.queuedEntries ++ ((p.sessions.ad? tab id).map p.queue.entryOf).toList := by
  rw [Pipeline.queuedEntries, h.adNotes, List.filterMap_append]
  cases p.sessions.ad? tab id <;> rfl

theorem takenAds (h : Moved p tab id q) :
    q.takenAds = p.takenAds ++ ((p.sessions.ad? tab id).map fun ad => (tab, id, (p.queue.entryOf ad).seq)).toList := by
  rw [Pipeline.takenAds, h.adNotes, List.filterMap_append]
  cases p.sessions.ad? tab id <;> rfl

theorem lateAnswers (h : Moved p tab id q) : q.lateAnswers = p.lateAnswers := by
  rw [Pipeline.lateAnswers, h.adNotes, List.filterMap_append]
  cases p.sessions.ad? tab id <;> simp [Pipeline.lateAnswers]

end Moved

/-! ## Those who waited -/

section Answers

variable (p) (tab : String)

/-- One who waited gets its ad if views are reported and the tab has it. -/
theorem answer_moved (w : Waiting) :
    ∃ q, Moved p tab w.ad q ∧ Kept q (answer true tab p w) ∧
      (answer true tab p w).lateAnswers = p.lateAnswers ++ [(w.key, (p.sessions.ad? tab w.ad).isSome)] := by
  have hm := resolve_moved p tab w.ad
  refine ⟨_, hm, ?_, ?_⟩
  · exact (Kept.answered (p.resolve tab w.ad).1 tab w _).trans (Quiet.settled _ w.key _).kept
  · rw [← resolve_isSome, ← hm.lateAnswers]
    exact lateAnswers_answered (p.resolve tab w.ad).1 tab w _

/-- One who waited gets nothing if views are not reported. -/
theorem answer_kept (w : Waiting) :
    Kept p (answer false tab p w) ∧ (answer false tab p w).lateAnswers = p.lateAnswers ++ [(w.key, false)] :=
  ⟨(Kept.answered p tab w false).trans (Quiet.settled _ w.key _).kept, lateAnswers_answered p tab w false⟩

theorem answer_fold_kept (ws : List Waiting) : Kept p (ws.foldl (answer false tab) p) := by
  induction ws generalizing p with
  | nil => exact (Quiet.refl p).kept
  | cons w ws ih => exact (answer_kept p tab w).1.trans (ih (answer false tab p w))

/-- What those who waited are answered goes into the journal. -/
theorem answer_fold_late (isReporting : Bool) {ads : AdMap} (ws : List Waiting)
    (h : (p.sessions.slot tab).ads = some ads) :
    ∃ as : List (Nat × Bool), (ws.foldl (answer isReporting tab) p).lateAnswers = p.lateAnswers ++ as ∧
      as.map (fun a => (a.1, Answer.decided a.2)) = answers isReporting ads ws := by
  induction ws generalizing p ads with
  | nil => exact ⟨[], by simp, rfl⟩
  | cons w ws ih =>
    cases isReporting with
    | false =>
      obtain ⟨as, hl, has⟩ := ih (answer false tab p w) h
      refine ⟨(w.key, false) :: as, ?_, ?_⟩
      · rw [List.foldl_cons, hl, (answer_kept p tab w).2, List.append_assoc, List.singleton_append]
      · simp [answers, has]
    | true =>
      obtain ⟨q, hm, -, hlate⟩ := answer_moved p tab w
      have hads : ((answer true tab p w).sessions.slot tab).ads = some (ads.erase w.ad) := by
        simp [answer, note, settleRequest, resolve_sessions, Sessions.take_slot, h]
      obtain ⟨as, hl, has⟩ := ih (answer true tab p w) hads
      have hsome : (p.sessions.ad? tab w.ad).isSome = ads.contains w.ad := by
        simp [Sessions.ad?, h, Table.contains]
      refine ⟨(w.key, ads.contains w.ad) :: as, ?_, ?_⟩
      · rw [List.foldl_cons, hl, hlate, hsome, List.append_assoc, List.singleton_append]
      · simp [answers, has]

/-- Answering those who waited opens a section, answers one after the other, and closes the section. -/
theorem answerAll_stages (isReporting : Bool) (ws : List Waiting) :
    ∃ q, Quiet p q ∧ q.sessions = p.sessions ∧
      Quiet (ws.foldl (answer isReporting tab) q) (p.answerAll isReporting tab ws) := by
  unfold answerAll
  split_ifs with he
  · rw [List.isEmpty_iff.1 he]
    exact ⟨p, .refl p, rfl, .refl p⟩
  · exact ⟨{ p with queue := p.queue.openSection }, .of_eq rfl rfl rfl, rfl, .adopt_claim _ rfl rfl⟩

end Answers

/-! ## Requests -/

/-- what a request leaves: it is refused, it waits, or a move answers it at once -/
inductive Requested (x : Setup) (p : Pipeline) (tab id : String) (q : Pipeline) : Prop where
  | refused (reports : x.gate.reports p.center = false) (requests : q.requests = p.requests ++ [.decided false])
      (quiet : Quiet p q)
  | waits (reports : x.gate.reports p.center = true) (missing : p.sessions.ad? tab id = none)
      (requests : q.requests = p.requests ++ [.waiting]) (quiet : Quiet p q)
  | answered (reports : x.gate.reports p.center = true)
      (requests : q.requests = p.requests ++ [.decided (p.sessions.ad? tab id).isSome]) (moved : Moved p tab id q)

theorem request_requested (x : Setup) (p : Pipeline) (tab id : String) :
    Requested x p tab id (Pipeline.request x p tab id).1 := by
  cases hr : x.gate.reports p.center with
  | false =>
    rw [request_unreported x p tab id hr]
    exact .refused hr rfl ((Quiet.note p (.unreported tab id)).trans (.of_eq rfl rfl rfl))
  | true =>
    cases ha : (p.sessions.slot tab).ads with
    | none =>
      have hads (j i : String) : (p.sessions.park tab ⟨p.requests.length, id⟩).1.ad? j i = p.sessions.ad? j i := by
        rw [Sessions.ad?, Sessions.ad?, Sessions.park_ads]
      have hmissing : p.sessions.ad? tab id = none := by simp [Sessions.ad?, ha]
      rw [request_waits x p id hr ha]
      exact .waits hr hmissing rfl
        (((Quiet.sessions hads).trans (.note _ (.parked tab ⟨p.requests.length, id⟩))).trans (.of_eq rfl rfl rfl))
    | some ads =>
      obtain ⟨adNotes, moved, count, stack⟩ := resolve_moved p tab id
      rw [request_ready x p id hr (by rw [ha]; rfl), Sessions.containsAd_eq]
      exact .answered hr rfl ⟨adNotes, moved, count, stack⟩

/-! ## Completions -/

theorem stocked_quiet (p : Pipeline) (t : Ticket) (ads : AdMap) :
    Quiet { p with sessions := (p.sessions.complete t ads).1 } (stocked p t ads) :=
  .note _ (.stored t ads (p.line t.tab))

/-- An accepted completion stores its ads and then answers those who waited. -/
theorem finish_stages {t : Ticket} (ads : AdMap) (h : p.sessions.isCurrent t = true) :
    ∃ q, Quiet (stocked p t ads) q ∧ (q.sessions.slot t.tab).ads = some ads ∧
      Quiet ((p.line t.tab).foldl (answer (x.gate.reports p.center) t.tab) q) (finish x p t ads) := by
  obtain ⟨q, hq, hs, hr⟩ := answerAll_stages (stocked p t ads) t.tab (x.gate.reports p.center) (p.line t.tab)
  refine ⟨q, hq, ?_, ?_⟩
  · rw [hs, stocked_slot ads h, if_pos rfl]
  · rw [finish_eq ads h]
    exact hr.trans (.of_eq rfl rfl rfl)

theorem finish_quiet {t : Ticket} (ads : AdMap) (h : p.sessions.isCurrent t = false) : Quiet p (finish x p t ads) := by
  have hrefused : ¬ p.sessions.Accepts t ads := fun ha => by
    rw [isCurrent_iff.2 (accepts_iff.1 ha)] at h
    cases h
  rw [finish_late ads h, Sessions.complete_of_not_accepts hrefused]
  exact (Quiet.sessions (s := p.sessions.refusing) fun _ _ => rfl).trans
    ((Quiet.note _ (.late t)).trans (.of_eq rfl rfl rfl))

/-- A reset forgets its tab, and moves nothing. -/
theorem reset_quiet (p : Pipeline) (tab : String) :
    Quiet { p with sessions := (p.sessions.reset tab).1 } (p.reset tab) := by
  have hfold (p : Pipeline) (ws : List Waiting) :
      Quiet p (ws.foldl (fun p w => p.settleRequest w.key (.abandoned tab)) p) := by
    induction ws generalizing p with
    | nil => exact .refl p
    | cons w ws ih => exact (Quiet.settled p w.key _).trans (ih _)
  unfold reset
  simp only
  split_ifs
  · exact .refl _
  · exact (Quiet.note _ (.abandoned tab _)).trans (hfold _ _)

/-! ## Events that leave all ads where they are -/

/-- whether an event can move, store or forget ads -/
def Event.handlesAds (p : Pipeline) : Event → Bool
  | .request _ _ | .resolve _ _ | .reset _ => true
  | .finish t _ => p.sessions.isCurrent t
  | _ => false

theorem dispatch_fold_quiet (p : Pipeline) {ns : List Dispatch.Note} (h : Dispatch.queuedIn ns = []) :
    Quiet p (ns.foldl (fun p n => p.note (.dispatch n)) p) := by
  induction ns generalizing p with
  | nil => exact .refl p
  | cons n ns ih =>
    cases n with
    | queued e => simp [Dispatch.queuedIn] at h
    | started e => exact (Quiet.note p (.dispatch (.started e))).trans (ih _ (by simpa [Dispatch.queuedIn] using h))
    | ended e o => exact (Quiet.note p (.dispatch (.ended e o))).trans (ih _ (by simpa [Dispatch.queuedIn] using h))

theorem drain_quiet (p : Pipeline) (d : Dispatch.Drain) : Quiet p (p.drain x d) := by
  have hqueue : Quiet p { p with queue := (p.queue.turn x.reporter x.reportLimit d).queue } :=
    ⟨rfl, fun _ _ => rfl, Dispatch.enqueued_turn _ d, Dispatch.turn_rest _ d⟩
  exact hqueue.trans (dispatch_fold_quiet _ (Dispatch.Machine.queuedIn_turn _ d))

theorem perform_quiet {e : Event} (h : e.handlesAds p = false) : Quiet p (perform x p e) := by
  cases e with
  | request tab id => cases h
  | resolve tab id => cases h
  | reset tab => cases h
  | finish t ads => exact finish_quiet ads h
  | begin tab url trigger =>
    have hads : ∀ j i, (p.sessions.begin tab).1.ad? j i = p.sessions.ad? j i := fun j i => by
      rw [← Sessions.take_result, ← Sessions.take_result]
      exact (Sessions.begin_sameAds p.sessions tab).take j i
    refine (Quiet.sessions hads).trans ?_
    simp only [perform, Pipeline.begin]
    split_ifs
    · exact .refl _
    · exact .note _ _
  | release tab =>
    simp only [perform, Pipeline.release]
    split <;> exact .of_eq rfl rfl rfl
  | ask t => exact (Quiet.note p (.fetching t)).trans (.of_eq rfl rfl rfl)
  | arrive t a =>
    have hs : Quiet p { p with source := (p.source.conclude t a).1 } := .of_eq rfl rfl rfl
    simp only [perform, Pipeline.arrive]
    split
    · exact hs.trans (.note _ _)
    · exact hs.trans (.note _ _)
  | forget key => exact .of_eq rfl rfl rfl
  | closeSection i =>
    simp only [perform, Pipeline.closeSection]
    split
    · exact Quiet.trans (q := { p with sections := p.sections.set i false }) (.of_eq rfl rfl rfl) (.adopt_claim _ rfl rfl)
    · exact .refl p
  | apply s =>
    have hc : Quiet p { p with center := (p.center.apply p.agenda.now s).1 } := .of_eq rfl rfl rfl
    have hs := hc.trans (.note _ (.overridden s))
    simp only [perform, Pipeline.apply]
    split
    · exact hs
    · exact hs
    · exact hs.trans (.of_eq rfl rfl rfl)
  | publish e =>
    simp only [perform, Pipeline.publish?]
    cases p.bus.publish? e <;> exact .of_eq rfl rfl rfl
  | receive =>
    have hb (bus : Bus TabEvent) : Quiet p { p with bus } := .of_eq rfl rfl rfl
    simp only [perform, Pipeline.receive]
    split
    · next bus missed _ => exact (hb bus).trans (.note _ (.lagged missed))
    · exact .of_eq rfl rfl rfl
  | drain d => exact drain_quiet p d
  | _ => exact .of_eq rfl rfl rfl

end AdConfirm.Pipeline
