import AdConfirm.Proofs.Pipeline.Attempt

/-!
A pipeline without what the handling of ads does not look at.

Ads, requests and the queue are handled without a look at the documents that tabs have, at the bus and at who follows it, and at
what the journal tells. So some of this may be erased: what happens in the handling of ads happens in the same way to what is left.

- `Erasure`: what is erased, and that nothing else is. `Erasure.erase`: the pipeline without it.
- `Erasure.erase_resolve`, `Erasure.erase_answerAll`, `Erasure.erase_finish`, `Erasure.erase_request`, `Erasure.erase_reset`,
  `Erasure.erase_drain`, `Erasure.erase_follow`: the handling of ads commutes with the erasure.
-/

namespace AdConfirm.Pipeline

open AdConfirm.Tab (Ticket Waiting)

/-- whether a note tells of something from outside: a document that was delivered, or events that were missed -/
def Note.isForeign : Note → Bool
  | .fetched _ _ | .lagged _ => true
  | _ => false

/-- what is left of the documents, the bus, the tasks and the notes; the clock, all tasks but the one that follows the bus, and
the notes of what happens here are to be seen -/
structure Erasure where
  source : Source → Source
  bus : Bus TabEvent → Bus TabEvent
  agenda : Agenda Task → Agenda Task
  note : Note → Option Note
  now : ∀ a, (agenda a).now = a.now
  spawn : ∀ a t, isListen t = false → agenda (a.spawn t) = (agenda a).spawn t
  sleepUntil : ∀ a due t, isListen t = false → agenda (a.sleepUntil due t) = (agenda a).sleepUntil due t
  own : ∀ n, n.isForeign = false → note n = some n
  foreign : ∀ n m, n.isForeign = true → note n = some m → m.isForeign = true

namespace Erasure

def erase (v : Erasure) (p : Pipeline) : Pipeline :=
  { p with
    source := v.source p.source, bus := v.bus p.bus, agenda := v.agenda p.agenda,
    journal := p.journal.filterMap fun n => (v.note n.2).map (n.1, ·) }

variable (v : Erasure) (x : Setup) (p : Pipeline)

theorem erase_note {n : Note} (h : n.isForeign = false) : v.erase (p.note n) = (v.erase p).note n := by
  simp [erase, Pipeline.note, v.own n h, v.now]

theorem erase_unnoted {n : Note} (h : v.note n = none) : v.erase (p.note n) = v.erase p := by
  simp [erase, Pipeline.note, h]

theorem erase_spawn {t : Task} (h : isListen t = false) : v.erase (p.spawn t) = (v.erase p).spawn t := by
  simp [erase, Pipeline.spawn, v.spawn p.agenda t h]

theorem erase_notes (ns : List Dispatch.Note) :
    v.erase (ns.foldl (fun p n => p.note (.dispatch n)) p) = ns.foldl (fun p n => p.note (.dispatch n)) (v.erase p) := by
  induction ns generalizing p with
  | nil => rfl
  | cons n ns ih => rw [List.foldl_cons, List.foldl_cons, ih, v.erase_note p rfl]

theorem erase_adopt (q : Dispatch.Queue × Bool) : v.erase (p.adopt q) = (v.erase p).adopt q := by
  unfold Pipeline.adopt
  split
  · exact v.erase_spawn { p with queue := q.1 } rfl
  · rfl

theorem erase_resolve (tab id : String) :
    v.erase (p.resolve tab id).1 = ((v.erase p).resolve tab id).1 ∧ (p.resolve tab id).2 = ((v.erase p).resolve tab id).2 := by
  have hsessions : (v.erase p).sessions = p.sessions := rfl
  unfold Pipeline.resolve
  rw [hsessions]
  split
  · exact ⟨v.erase_note p rfl, rfl⟩
  · next s ad _ =>
    refine ⟨?_, rfl⟩
    rw [v.erase_note _ rfl, v.erase_note _ rfl, v.erase_adopt]
    rfl

theorem erase_answer (isReporting : Bool) (tab : String) (w : Waiting) :
    v.erase (answer isReporting tab p w) = answer isReporting tab (v.erase p) w := by
  have hsettle (q : Pipeline) (key : Nat) (a : Answer) : v.erase (q.settleRequest key a) = (v.erase q).settleRequest key a := rfl
  cases isReporting with
  | false => exact (hsettle _ _ _).trans (congrArg (settleRequest · w.key _) (v.erase_note p rfl))
  | true =>
    obtain ⟨hseen, hresult⟩ := v.erase_resolve p tab w.ad
    simp only [answer, if_true, hsettle, v.erase_note _ (n := .answered _ _ _) rfl, hseen, hresult]

theorem erase_answer_fold (isReporting : Bool) (tab : String) (ws : List Waiting) :
    v.erase (ws.foldl (answer isReporting tab) p) = ws.foldl (answer isReporting tab) (v.erase p) := by
  induction ws generalizing p with
  | nil => rfl
  | cons w ws ih => rw [List.foldl_cons, List.foldl_cons, ih, erase_answer]

theorem erase_answerAll (isReporting : Bool) (tab : String) (ws : List Waiting) :
    v.erase (p.answerAll isReporting tab ws) = (v.erase p).answerAll isReporting tab ws := by
  have hfold := v.erase_answer_fold { p with queue := p.queue.openSection } isReporting tab ws
  unfold answerAll
  split_ifs
  · rfl
  · exact (v.erase_adopt _ _).trans (congrArg (fun q : Pipeline => q.adopt q.queue.closeSection) hfold)

theorem erase_finish (t : Ticket) (ads : AdMap) : v.erase (finish x p t ads) = finish x (v.erase p) t ads := by
  have hhooks (q : Pipeline) : v.erase (q.fireHooks t.tab) = (v.erase q).fireHooks t.tab := rfl
  cases hcurrent : p.sessions.isCurrent t with
  | false =>
    have hcurrent' : (v.erase p).sessions.isCurrent t = false := hcurrent
    rw [finish_late ads hcurrent, finish_late ads hcurrent', hhooks, v.erase_note _ rfl]
    rfl
  | true =>
    have hcurrent' : (v.erase p).sessions.isCurrent t = true := hcurrent
    have hstocked : v.erase (stocked p t ads) = stocked (v.erase p) t ads := v.erase_note _ rfl
    rw [finish_eq ads hcurrent, finish_eq ads hcurrent', hhooks, v.erase_answerAll, hstocked]
    rfl

theorem erase_request (tab id : String) :
    v.erase (Pipeline.request x p tab id).1 = (Pipeline.request x (v.erase p) tab id).1 := by
  have hadd (q : Pipeline) (answers : List Answer) :
      v.erase { q with requests := answers } = { v.erase q with requests := answers } := rfl
  cases hr : x.gate.reports p.center with
  | false =>
    rw [request_unreported x p tab id hr, request_unreported x (v.erase p) tab id hr, hadd, v.erase_note p rfl]
    rfl
  | true =>
    cases ha : (p.sessions.slot tab).ads with
    | none =>
      rw [request_waits x p id hr ha, request_waits x (v.erase p) id hr ha, hadd, v.erase_note _ rfl]
      rfl
    | some ads =>
      have hknown : (p.sessions.slot tab).ads.isSome := by rw [ha]; rfl
      rw [request_ready x p id hr hknown, request_ready x (v.erase p) id hr hknown, ← (v.erase_resolve p tab id).1]
      rfl

theorem erase_reset (tab : String) : v.erase (p.reset tab) = (v.erase p).reset tab := by
  have hfold (ws : List Waiting) (q : Pipeline) :
      v.erase (ws.foldl (fun q w => q.settleRequest w.key (.abandoned tab)) q) =
        ws.foldl (fun q w => q.settleRequest w.key (.abandoned tab)) (v.erase q) := by
    induction ws generalizing q with
    | nil => rfl
    | cons w ws ih => exact ih (q.settleRequest w.key (.abandoned tab))
  have hsessions : (v.erase p).sessions = p.sessions := rfl
  unfold reset
  rw [hsessions]
  simp only
  split_ifs
  · rfl
  · rw [hfold, v.erase_note _ rfl]
    rfl

theorem erase_drain (d : Dispatch.Drain) : v.erase (p.drain x d) = (v.erase p).drain x d :=
  v.erase_notes _ _

/-- An attempt begins alike, with the same ticket and the same leave to ask for its page. -/
theorem erase_begin (tab : String) (url : Url) (trigger : Bool) :
    v.erase (begin x p tab url trigger).1 = (begin x (v.erase p) tab url trigger).1 ∧
      (begin x p tab url trigger).2 = (begin x (v.erase p) tab url trigger).2 := by
  have hsessions : (v.erase p).sessions = p.sessions := rfl
  have hcenter : (v.erase p).center = p.center := rfl
  unfold begin
  simp only [hsessions, hcenter]
  refine ⟨?_, trivial⟩
  split_ifs
  · rfl
  · exact v.erase_note _ rfl

/-- What a tab event asks for is done alike. -/
theorem erase_follow (e : TabEvent) : v.erase (follow x p e) = follow x (v.erase p) e := by
  cases e with
  | loaded tab url trigger =>
    obtain ⟨hbegin, hticket⟩ := v.erase_begin x p tab url trigger
    have hspawn := v.erase_spawn (begin x p tab url trigger).1
      (t := .ingest (begin x p tab url trigger).2.1 (.begun (begin x p tab url trigger).2.2)) rfl
    rw [hbegin] at hspawn
    simp only [hticket] at hspawn
    exact hspawn
  | navigated tab => exact v.erase_reset p tab
  | closed tab => exact v.erase_reset p tab

end Erasure

end AdConfirm.Pipeline
