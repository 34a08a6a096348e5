import AdConfirm.Proofs.Pipeline.Overtaken
import AdConfirm.Proofs.Pipeline.DocumentErasure

/-!
Two pipelines side by side.

Two pipelines that differ in documents alone take the same turns. They go on side by side until an attempt ends in both that is
current and was delivered different documents: the ads that it stores are the one way in which a document gets into a tab. An
attempt that is not current stores nothing, so what it was delivered makes no difference.

- `Alongside`: two histories that are the same but for documents, and so are the pipelines after each of their events.
- `Leaked`: an attempt stored its ads, and was delivered different documents.
- `Lockstep`: the one comes from the one and the other from the other by events of tasks, and they go alongside or a document has
  leaked. `Lockstep.trans`: so it is of two stretches, one after the other.
- `conclude_lockstep`: how attempts end in both. All else that tasks do follows from it.
- `step_lockstep`, `run_lockstep`: operations and runs.
-/

namespace AdConfirm.Pipeline

open AdConfirm.Tab (Ticket)

/-- the event without documents: neither the one that it gives to a tab, nor the ads of one -/
def Event.bare : Event → Event
  | .setPage tab _ d => .setPage tab none d
  | .finish t _ => .finish t .empty
  | e => e

/-- the operation without the document that it gives to a tab, if it does -/
def Op.bare : Op → Op
  | .setPage tab _ d => .setPage tab none d
  | o => o

/-- histories of two pipelines that are the same but for documents, and so are the pipelines before and after each event -/
inductive Alongside (x : Setup) : Pipeline → Pipeline → List Event → List Event → Prop
  | done {p p' : Pipeline} (alike : p.erased = p'.erased) : Alongside x p p' [] []
  | next {p p' : Pipeline} {e e' : Event} {es es' : List Event} (alike : p.erased = p'.erased) (same : e.bare = e'.bare)
      (rest : Alongside x (perform x p e) (perform x p' e') es es') : Alongside x p p' (e :: es) (e' :: es')

/-- the journal tells that an attempt was delivered a document, or that there was none -/
def Delivered (p : Pipeline) (t : Ticket) (page : Option WebPage) : Prop := ∃ time, (time, .fetched t page) ∈ p.chronicle

/-- an attempt stored its ads, and was delivered different documents -/
def Leaked (q q' : Pipeline) : Prop :=
  ∃ t page page', page ≠ page' ∧ Delivered q t page ∧ Delivered q' t page' ∧
    ∃ time ads ws, (time, .stored t ads ws) ∈ q.chronicle

/-- two stretches of events of tasks: if the pipelines differ in documents alone before them, they go alongside, or a document
has leaked in the end -/
structure Lockstep (x : Setup) (p p' q q' : Pipeline) : Prop where
  leads : Leads x p q
  leads' : Leads x p' q'
  along : p.erased = p'.erased →
    (∃ es es', q = play x p es ∧ q' = play x p' es' ∧ (∀ e ∈ es, e.isCall = false) ∧ (∀ e ∈ es', e.isCall = false) ∧
      Alongside x p p' es es') ∨ Leaked q q'

variable {x : Setup} {p p' q q' r r' : Pipeline} {es es' fs fs' : List Event} {e e' : Event}

/-! ## Histories alongside -/

theorem Event.bare_of_erased (h : e.erased = e'.erased) : e.bare = e'.bare := by
  have hbare (e : Event) : e.erased.bare = e.bare := by cases e <;> rfl
  rw [← hbare e, ← hbare e', h]

namespace Alongside

theorem alike_after (h : Alongside x p p' es es') : (play x p es).erased = (play x p' es').erased := by
  induction h with
  | done alike => exact alike
  | next alike same rest ih => exact ih

theorem append (h : Alongside x p p' es es') (k : Alongside x (play x p es) (play x p' es') fs fs') :
    Alongside x p p' (es ++ fs) (es' ++ fs') := by
  induction h with
  | done alike => exact k
  | next alike same rest ih => exact .next alike same (ih k)

theorem same (h : Alongside x p p' es es') : es.map Event.bare = es'.map Event.bare := by
  induction h with
  | done alike => rfl
  | next alike same rest ih => rw [List.map_cons, List.map_cons, same, ih]

/-- **After as many events of each, the two differ in documents alone.** -/
theorem take (h : Alongside x p p' es es') (n : Nat) : (play x p (es.take n)).erased = (play x p' (es'.take n)).erased := by
  induction h generalizing n with
  | done alike => simpa [play] using alike
  | next alike same rest ih =>
    cases n with
    | zero => exact alike
    | succ n => exact ih n

end Alongside

/-! ## Stretches of tasks -/

theorem mem_chronicle_play {n : Nat × Note} (hn : n ∈ p.chronicle) (es : List Event) : n ∈ (play x p es).chronicle := by
  rw [chronicle_play]
  exact List.mem_append_left _ hn

theorem Delivered.play {t : Ticket} {page : Option WebPage} (h : Delivered p t page) (es : List Event) :
    Delivered (play x p es) t page := by
  obtain ⟨time, hpage⟩ := h
  exact ⟨time, mem_chronicle_play hpage es⟩

/-- What has leaked has leaked for good. -/
theorem Leaked.play (h : Leaked q q') (es es' : List Event) : Leaked (play x q es) (play x q' es') := by
  obtain ⟨t, page, page', hne, hpage, hpage', time, ads, ws, hstored⟩ := h
  exact ⟨t, page, page', hne, hpage.play es, hpage'.play es', time, ads, ws, mem_chronicle_play hstored es⟩

theorem Leaked.leads (h : Leaked q q') (hl : Leads x q r) (hl' : Leads x q' r') : Leaked r r' := by
  obtain ⟨es, rfl, -⟩ := hl
  obtain ⟨es', rfl, -⟩ := hl'
  exact h.play es es'

namespace Lockstep

theorem refl (x : Setup) (p p' : Pipeline) : Lockstep x p p' p p' :=
  ⟨.refl p, .refl p', fun h => .inl ⟨[], [], rfl, rfl, by simp, by simp, .done h⟩⟩

theorem trans (h : Lockstep x p p' q q') (k : Lockstep x q q' r r') : Lockstep x p p' r r' := by
  refine ⟨h.leads.trans k.leads, h.leads'.trans k.leads', ?_⟩
  intro halike
  rcases h.along halike with ⟨es, es', rfl, rfl, hes, hes', hside⟩ | hleak
  · rcases k.along hside.alike_after with ⟨fs, fs', rfl, rfl, hfs, hfs', kside⟩ | kleak
    · refine .inl ⟨es ++ fs, es' ++ fs', (play_append x p es fs).symm, (play_append x p' es' fs').symm, ?_, ?_,
        hside.append kside⟩
      · exact fun e he => (List.mem_append.1 he).elim (hes e) (hfs e)
      · exact fun e he => (List.mem_append.1 he).elim (hes' e) (hfs' e)
    · exact .inr kleak
  · exact .inr (hleak.leads k.leads k.leads')

/-- What is to be proved of two stretches may be proved of pipelines that differ in documents alone. -/
theorem of_alike (leads : Leads x p q) (leads' : Leads x p' q') (h : p.erased = p'.erased → Lockstep x p p' q q') :
    Lockstep x p p' q q' := ⟨leads, leads', fun halike => (h halike).along halike⟩

/-- One more event of each, which is the same but for documents. -/
theorem event (h : Lockstep x p p' q q') (e e' : Event) (same : q.erased = q'.erased → e.erased = e'.erased)
    (he : e.isCall = false := by rfl) (he' : e'.isCall = false := by rfl) :
    Lockstep x p p' (perform x q e) (perform x q' e') := by
  refine h.trans ⟨(Leads.refl q).event e he, (Leads.refl q').event e' he', fun halike => .inl ?_⟩
  refine ⟨[e], [e'], rfl, rfl, by simpa using he, by simpa using he', ?_⟩
  exact .next halike (Event.bare_of_erased (same halike)) (.done (perform_alike halike (same halike)))

/-- One more event, the same in both. -/
theorem same (h : Lockstep x p p' q q') (e : Event) (he : e.isCall = false := by rfl) :
    Lockstep x p p' (perform x q e) (perform x q' e) := h.event e e (fun _ => rfl) he he

/-- Tasks are rearranged in both in the same way. -/
theorem arrange (h : Lockstep x p p' q q') (f : Agenda Task → Agenda Task) :
    Lockstep x p p' { q with agenda := f q.agenda } { q' with agenda := f q'.agenda } :=
  h.event (.arrange (f q.agenda)) (.arrange (f q'.agenda)) fun halike =>
    (congrArg (fun r : Pipeline => Event.arrange (f r.agenda)) halike :)

end Lockstep

/-! ## Attempts -/

/-- An attempt that is not current ends in the same way with whatever ads. -/
theorem finish_of_not_current {t : Ticket} (ads ads' : AdMap) (h : p.sessions.isCurrent t = false) :
    finish x p t ads = finish x p t ads' := by
  have hrefused (ads : AdMap) : (p.sessions.complete t ads).1 = p.sessions.refusing := by
    rw [Tab.Sessions.complete_of_not_accepts fun ha => ?_]
    rw [Tab.Sessions.isCurrent_iff.2 (Tab.Sessions.accepts_iff.1 ha)] at h
    cases h
  rw [finish_late ads h, finish_late ads' h, hrefused, hrefused]

/-- An attempt ends alongside if it ends with the same ads in both, or is not current. -/
theorem Lockstep.finish {t : Ticket} (h : Lockstep x p p' q q') (ads ads' : AdMap)
    (same : q.erased = q'.erased → ads = ads' ∨ q.sessions.isCurrent t = false) :
    Lockstep x p p' (perform x q (.finish t ads)) (perform x q' (.finish t ads')) := by
  refine h.trans ⟨(Leads.refl q).event _, (Leads.refl q').event _, fun halike => .inl ?_⟩
  refine ⟨[.finish t ads], [.finish t ads'], rfl, rfl, by simp [Event.isCall], by simp [Event.isCall], ?_⟩
  refine .next halike rfl (.done ?_)
  have hend : (perform x q (.finish t ads)).erased = (perform x q' (.finish t ads)).erased := perform_alike halike rfl
  rcases same halike with rfl | hlate
  · exact hend
  · have hlate' : q'.sessions.isCurrent t = false := (congrArg (·.sessions.isCurrent t) halike).symm.trans hlate
    exact hend.trans (congrArg Pipeline.erased (finish_of_not_current ads ads' hlate'))

/-- The end of a fetch makes no attempt current, nor one that was current not so. -/
theorem arrive_isCurrent (x : Setup) (p : Pipeline) (t : Ticket) (a : Arrival) :
    (arrive x p t a).sessions.isCurrent t = p.sessions.isCurrent t := by
  have hsessions : (perform x p (.arrive t a)).sessions = p.sessions := perform_sessions rfl
  exact congrArg (·.isCurrent t) hsessions

/-- The end of an attempt is told: which document it was delivered, and that its ads were stored if it was current. -/
theorem delivered_conclude {t : Ticket} {a : Arrival} (h : (p.source.conclude t a).2 = true) :
    Delivered (conclude x p t a) t (p.source.page? t.tab) := by
  rw [conclude_eq]
  refine ⟨p.agenda.now, mem_chronicle_play ?_ [.finish t _]⟩
  have harrive := perform_chronicle x p (.arrive t a)
  rw [Event.entries, Event.told, if_pos h] at harrive
  rw [show arrive x p t a = perform x p (.arrive t a) from rfl, harrive]
  simp

theorem stored_conclude {t : Ticket} {a : Arrival} (h : p.sessions.isCurrent t = true) :
    ∃ time ads ws, (time, .stored t ads ws) ∈ (conclude x p t a).chronicle := by
  have hcurrent : (arrive x p t a).sessions.isCurrent t = true := (arrive_isCurrent x p t a).trans h
  rw [conclude_eq, finish_chronicle, Event.entries, Event.told, if_pos hcurrent]
  exact ⟨_, _, _, List.mem_append_right _ List.mem_cons_self⟩

/-- A fetch that is asked for waits for as long in both, and ends in the same way. -/
theorem ask_alike (h : p.erased = p'.erased) (limit : Nat) (t : Ticket) :
    (p.source.ask limit t).2 = (p'.source.ask limit t).2 := by
  have hask := congrArg (fun q : Pipeline => (q.source.ask limit t).2) h
  simpa [erased, Source.erased_ask] using hask

/-- **Attempts end alongside, unless a current one was delivered different documents.** -/
theorem conclude_lockstep (x : Setup) (p p' : Pipeline) (t : Ticket) (a : Arrival) :
    Lockstep x p p' (conclude x p t a) (conclude x p' t a) := by
  refine .of_alike (conclude_leads x p t a) (conclude_leads x p' t a) ?_
  intro halike
  have harrive : Lockstep x p p' (arrive x p t a) (arrive x p' t a) := (Lockstep.refl x p p').same (.arrive t a)
  have harrives : (p.source.conclude t a).2 = (p'.source.conclude t a).2 := by
    have h := congrArg (fun q : Pipeline => (q.source.conclude t a).2) halike
    simpa [erased, Source.erased_conclude] using h
  by_cases hleak : (p.source.conclude t a).2 = true ∧ p.source.page? t.tab ≠ p'.source.page? t.tab ∧
      p.sessions.isCurrent t = true
  · obtain ⟨hcame, hne, hcurrent⟩ := hleak
    have hleaked : Leaked (conclude x p t a) (conclude x p' t a) :=
      ⟨t, _, _, hne, delivered_conclude hcame, delivered_conclude (harrives ▸ hcame), stored_conclude hcurrent⟩
    exact ⟨conclude_leads x p t a, conclude_leads x p' t a, fun _ => .inr hleaked⟩
  · rw [conclude_eq, conclude_eq, ← harrives]
    refine harrive.finish _ _ fun _ => ?_
    rw [arrive_isCurrent]
    cases hcame : (p.source.conclude t a).2 with
    | false => exact .inl rfl
    | true =>
      by_cases hpage : p.source.page? t.tab = p'.source.page? t.tab
      · exact .inl (by rw [hpage])
      · exact .inr (Bool.eq_false_iff.2 fun hcurrent => hleak ⟨hcame, hpage, hcurrent⟩)

/-- **What an attempt does in its turn, it does in both.** -/
theorem proceed_lockstep (x : Setup) (p p' : Pipeline) (t : Ticket) (s : Stage) :
    Lockstep x p p' (proceed x p t s).1 (proceed x p' t s).1 := by
  refine .of_alike (proceed_leads x p t s) (proceed_leads x p' t s) ?_
  intro halike
  cases s with
  | fetching a => exact conclude_lockstep x p p' t a
  | begun isAdmitted =>
    cases isAdmitted with
    | false => exact (Lockstep.refl x p p').same (.finish t .empty)
    | true =>
      have hask : Lockstep x p p' (ask x p t) (ask x p' t) := (Lockstep.refl x p p').same (.ask t)
      rw [proceed_begun, proceed_begun, ask_alike halike]
      split_ifs
      · exact hask.trans (conclude_lockstep x _ _ t _)
      · exact hask

/-- And it waits for as long in both. -/
theorem proceed_wait (h : p.erased = p'.erased) (t : Ticket) (s : Stage) : (proceed x p t s).2 = (proceed x p' t s).2 := by
  cases s with
  | fetching a => rfl
  | begun isAdmitted =>
    cases isAdmitted with
    | false => rfl
    | true =>
      rw [proceed_begun, proceed_begun, ask_alike h]
      split_ifs <;> rfl

/-! ## Turns of tasks -/

/-- An attempt that begins gets the same ticket in both, and may ask for its page in both or in neither. -/
theorem begin_alike (h : p.erased = p'.erased) (tab : String) (url : Url) (trigger : Bool) :
    (begin x p tab url trigger).2 = (begin x p' tab url trigger).2 :=
  (congrArg (fun q : Pipeline => (Pipeline.begin x q tab url trigger).2) h :)

/-- A new attempt goes into the line in both. -/
theorem ingest_lockstep (h : p.erased = p'.erased) (tab : String) (url : Url) (trigger : Bool) :
    Lockstep x (perform x p (.begin tab url trigger)) (perform x p' (.begin tab url trigger)) (ingest x p tab url trigger)
      (ingest x p' tab url trigger) := by
  have harrange := (Lockstep.refl x (perform x p (.begin tab url trigger)) (perform x p' (.begin tab url trigger))).arrange
    (·.spawn (.ingest (begin x p' tab url trigger).2.1 (.begun (begin x p' tab url trigger).2.2)))
  have hticket := begin_alike (x := x) h tab url trigger
  unfold ingest
  simp only [hticket]
  exact harrange

theorem follow_lockstep (h : p.erased = p'.erased) (e : TabEvent) : Lockstep x p p' (follow x p e) (follow x p' e) := by
  cases e with
  | loaded tab url trigger =>
    exact ((Lockstep.refl x p p').same (.begin tab url trigger)).trans (ingest_lockstep h tab url trigger)
  | navigated tab => exact (Lockstep.refl x p p').same (.reset tab)
  | closed tab => exact (Lockstep.refl x p p').same (.reset tab)

theorem follow_alike (h : p.erased = p'.erased) (e : TabEvent) : (follow x p e).erased = (follow x p' e).erased := by
  rw [erased_follow, erased_follow, h]

/-- The task that follows the bus takes as many deliveries in both, and the same. -/
theorem listen_lockstep (n : Nat) (h : p.erased = p'.erased) :
    Lockstep x p p' (listen x n p).1 (listen x n p').1 ∧ (listen x n p).2 = (listen x n p').2 := by
  induction n generalizing p p' with
  | zero => exact ⟨.refl x p p', rfl⟩
  | succ n ih =>
    have hbus : p'.bus = p.bus := (congrArg Pipeline.bus h).symm
    have hreceive : Lockstep x p p' p.receive p'.receive := (Lockstep.refl x p p').same .receive
    have halike : p.receive.erased = p'.receive.erased := perform_alike (x := x) (e := .receive) h rfl
    unfold receive at hreceive halike
    unfold listen
    rw [hbus] at hreceive halike ⊢
    split
    · next bus e hr =>
      rw [hr] at hreceive halike
      obtain ⟨hrest, htook⟩ := ih (follow_alike (x := x) halike e)
      exact ⟨(hreceive.trans (follow_lockstep halike e)).trans hrest, htook⟩
    · next bus missed hr =>
      rw [hr] at hreceive halike
      obtain ⟨hrest, htook⟩ := ih halike
      exact ⟨hreceive.trans hrest, htook⟩
    · exact ⟨.refl x p p', rfl⟩
    · exact ⟨.refl x p p', rfl⟩

/-- **What a task does in its turn, it does in both.** -/
theorem turn_lockstep (x : Setup) (p p' : Pipeline) (t : Task) : Lockstep x p p' (turn x p t) (turn x p' t) := by
  refine .of_alike (turn_leads x p t) (turn_leads x p' t) ?_
  intro halike
  cases t with
  | drain d =>
    have hdrain : Lockstep x p p' (p.drain x d) (p'.drain x d) := (Lockstep.refl x p p').same (.drain d)
    have hqueue : p'.queue = p.queue := (congrArg Pipeline.queue halike).symm
    unfold drain at hdrain
    simp only [turn]
    rw [hqueue] at hdrain ⊢
    split
    · exact hdrain
    · next time d' _ => exact hdrain.arrange fun a => a.sleepUntil (a.now + time) (.drain d')
  | timer e =>
    cases e with
    | set path ttl => exact (Lockstep.refl x p p').arrange fun a => a.sleepUntil (a.now + 1000 * ttl) (.timer (.due path))
    | due path => exact (Lockstep.refl x p p').event (.expire path) (.expire path) fun _ => rfl
  | ingest t s =>
    have hproceed := proceed_lockstep x p p' t s
    have hwait := proceed_wait (x := x) halike t s
    simp only [turn]
    generalize proceed x p t s = c at hproceed hwait ⊢
    generalize proceed x p' t s = c' at hproceed hwait ⊢
    obtain ⟨q, wait⟩ := c
    obtain ⟨q', wait'⟩ := c'
    obtain rfl : wait = wait' := hwait
    cases wait with
    | none => exact hproceed
    | some wait => exact hproceed.arrange fun a => a.sleepUntil (a.now + wait.1) (.ingest t wait.2)
  | listen =>
    obtain ⟨hlisten, htook⟩ := listen_lockstep (x := x) deliveriesPerTurn halike
    simp only [turn, ← htook]
    split_ifs
    · exact hlisten.arrange fun a => a.spawn .listen
    · exact hlisten.arrange fun a => a.sleep .listen

/-! ## Time -/

theorem runTurns_leads (x : Setup) (n : Nat) (p : Pipeline) : Leads x p ((loop x).runTurns n p) := by
  obtain ⟨bs, h⟩ := (loop x).runTurns_beats n p
  exact h ▸ beats_leads x p bs

/-- As many turns in both. -/
theorem runTurns_lockstep (x : Setup) (n : Nat) (p p' : Pipeline) :
    Lockstep x p p' ((loop x).runTurns n p) ((loop x).runTurns n p') := by
  induction n generalizing p p' with
  | zero => exact .refl x p p'
  | succ n ih =>
    refine .of_alike (runTurns_leads x _ p) (runTurns_leads x _ p') ?_
    intro halike
    have hready : p'.agenda.ready = p.agenda.ready := (congrArg (·.agenda.ready) halike).symm
    cases hr : p.agenda.ready with
    | nil =>
      have hdone (q : Pipeline) (hq : q.agenda.ready = []) : (loop x).runTurns (n + 1) q = q := by
        simp [Loop.runTurns, Loop.next?, loop, hq]
      rw [hdone p hr, hdone p' (hready.trans hr)]
      exact .refl x p p'
    | cons t rest =>
      have hturn (q : Pipeline) (hq : q.agenda.ready = t :: rest) : (loop x).runTurns (n + 1) q =
          (loop x).runTurns n (turn x { q with agenda := { q.agenda with ready := rest } } t) := by
        simp [Loop.runTurns, Loop.next?, loop, hq]
      rw [hturn p hr, hturn p' (hready.trans hr)]
      have htaken := (Lockstep.refl x p p').arrange fun a => { a with ready := rest }
      exact (htaken.trans (turn_lockstep x _ _ t)).trans (ih _ _)

/-- The tasks of both come to rest. -/
theorem settle_lockstep (x : Setup) (p p' : Pipeline) : Lockstep x p p' ((loop x).settle p) ((loop x).settle p') := by
  refine .of_alike (settle_leads x p) (settle_leads x p') ?_
  intro halike
  have hturns : (loop x).turns p' = (loop x).turns p := (congrArg (loop x).turns halike).symm
  unfold Loop.settle
  rw [hturns]
  exact runTurns_lockstep x _ p p'

/-- Both wait for the same time next. -/
theorem due_alike (h : p.erased = p'.erased) : ((loop x).agenda p).nextDue? = ((loop x).agenda p').nextDue? :=
  (congrArg (fun q : Pipeline => q.agenda.nextDue?) h :)

/-- The clock of both is set. -/
theorem moveTo_lockstep (x : Setup) (p p' : Pipeline) (time : Nat) :
    Lockstep x p p' ((loop x).moveTo p time) ((loop x).moveTo p' time) :=
  (Lockstep.refl x p p').arrange fun a => a.moveTo time

/-- Letting time pass begins with all tasks that are ready. -/
theorem settled_passTo_leads (x : Setup) (instant : Nat) (p : Pipeline) (now : Nat) :
    Leads x ((loop x).settle p) ((loop x).passTo instant p now) := by
  have hmove (q : Pipeline) (time : Nat) : Leads x q ((loop x).moveTo q time) := beat_leads x q (.moveTo time)
  rw [Loop.passTo]
  split
  · exact hmove _ _
  · next time _ =>
    split_ifs
    · exact (hmove _ time).trans (passTo_leads x instant _ _)
    · exact hmove _ _

/-- Time passes in both. -/
theorem passTo_lockstep (x : Setup) (instant : Nat) (p p' : Pipeline) (now : Nat) :
    Lockstep x p p' ((loop x).passTo instant p now) ((loop x).passTo instant p' now) := by
  induction p, now using Loop.passTo.induct (loop x) instant generalizing p' with
  | case1 p now settled hdue =>
    refine (settle_lockstep x p p').trans (.of_alike (settled_passTo_leads x ..) (settled_passTo_leads x ..) ?_)
    intro halike
    have hdue' := due_alike (x := x) halike
    rw [hdue] at hdue'
    rw [Loop.passTo, Loop.passTo, hdue, ← hdue']
    exact moveTo_lockstep x _ _ instant
  | case2 p now settled time hdue hlt ih =>
    refine (settle_lockstep x p p').trans (.of_alike (settled_passTo_leads x ..) (settled_passTo_leads x ..) ?_)
    intro halike
    have hdue' := due_alike (x := x) halike
    have hgoesOn (q : Pipeline) (hq : ((loop x).agenda ((loop x).settle q)).nextDue? = some time) :
        (loop x).passTo instant q now = (loop x).passTo instant ((loop x).moveTo ((loop x).settle q) time) time := by
      rw [Loop.passTo, hq]
      simp only [hlt, and_self, if_true]
    rw [hgoesOn p hdue, hgoesOn p' (hdue'.symm.trans hdue)]
    exact (moveTo_lockstep x _ _ time).trans (ih _)
  | case3 p now settled time hdue hlt =>
    refine (settle_lockstep x p p').trans (.of_alike (settled_passTo_leads x ..) (settled_passTo_leads x ..) ?_)
    intro halike
    have hdue' := due_alike (x := x) halike
    rw [hdue] at hdue'
    rw [Loop.passTo, Loop.passTo, hdue, ← hdue']
    simp only [hlt, if_false]
    exact moveTo_lockstep x _ _ instant

theorem advance_lockstep (x : Setup) (p p' : Pipeline) (ms : Nat) :
    Lockstep x p p' ((loop x).advance p ms) ((loop x).advance p' ms) := by
  refine .of_alike (advance_leads x p ms) (advance_leads x p' ms) ?_
  intro halike
  have hnow : p'.agenda.now = p.agenda.now := (congrArg (·.agenda.now) halike).symm
  have hpass := passTo_lockstep x (p.agenda.now + ms) p p' p.agenda.now
  unfold Loop.advance
  simp only [loop, hnow]
  exact hpass.trans (settle_lockstep x _ _)

/-! ## Operations -/

/-- An attempt that is waited for in the middle of a call ends in both. -/
theorem ingestNow_lockstep (h : p.erased = p'.erased) (tab : String) (url : Url) (trigger : Bool) :
    Lockstep x (perform x p (.begin tab url trigger)) (perform x p' (.begin tab url trigger)) (ingestNow x p tab url trigger)
      (ingestNow x p' tab url trigger) := by
  have hticket := begin_alike (x := x) h tab url trigger
  have hbegun : (begin x p tab url trigger).1.erased = (begin x p' tab url trigger).1.erased :=
    perform_alike (e := .begin tab url trigger) h rfl
  refine .of_alike (ingestNow_leads x p tab url trigger) (ingestNow_leads x p' tab url trigger) fun _ => ?_
  simp only [perform, ingestNow]
  generalize begin x p tab url trigger = c at hticket hbegun ⊢
  generalize begin x p' tab url trigger = c' at hticket hbegun ⊢
  obtain ⟨q, t, isAdmitted⟩ := c
  obtain ⟨q', t', isAdmitted'⟩ := c'
  obtain ⟨rfl, rfl⟩ := Prod.mk.inj hticket
  have hproceed := proceed_lockstep x q q' t (.begun isAdmitted)
  have hwait := proceed_wait (x := x) hbegun t (.begun isAdmitted)
  simp only
  generalize proceed x q t (.begun isAdmitted) = d at hproceed hwait ⊢
  generalize proceed x q' t (.begun isAdmitted) = d' at hproceed hwait ⊢
  obtain ⟨r, wait⟩ := d
  obtain ⟨r', wait'⟩ := d'
  obtain rfl : wait = wait' := hwait
  cases wait with
  | none => exact hproceed
  | some wait =>
    obtain ⟨time, s⟩ := wait
    have hleads (r : Pipeline) : Leads x r (proceed x ((loop x).passTo (r.agenda.now + time) r r.agenda.now) t s).1 :=
      (passTo_leads x _ r _).trans (proceed_leads x _ t s)
    refine hproceed.trans (.of_alike (hleads r) (hleads r') ?_)
    intro halike
    have hnow : r'.agenda.now = r.agenda.now := (congrArg (·.agenda.now) halike).symm
    simp only [hnow]
    exact (passTo_lockstep x _ r r' _).trans (proceed_lockstep x _ _ t s)

/-- the pipeline after the call that an operation begins with, if it comes from outside -/
def called (x : Setup) (p : Pipeline) (o : Op) : Pipeline := (o.event?.map (perform x p)).getD p

/-- Operations that are the same but for documents are the same, or give different documents to a tab. -/
theorem eq_or_setPage {o o' : Op} (same : o.bare = o'.bare) :
    o = o' ∨ ∃ tab page page' d, o = .setPage tab page d ∧ o' = .setPage tab page' d := by
  cases o' with
  | setPage tab page' d => cases o <;> simp_all [Op.bare]
  | _ =>
    cases o with
    | setPage => cases same
    | _ => exact .inl same

theorem called_alike (h : p.erased = p'.erased) {o o' : Op} (same : o.bare = o'.bare) :
    (called x p o).erased = (called x p' o').erased := by
  rcases eq_or_setPage same with rfl | ⟨tab, page, page', d, rfl, rfl⟩
  · unfold called
    cases o.event? with
    | none => exact h
    | some e => exact perform_alike h rfl
  · have hset : (Event.setPage tab page d).erased = (Event.setPage tab page' d).erased := rfl
    exact perform_alike (x := x) h hset

/-- The call goes before what tasks do after it. -/
theorem Alongside.called {o o' : Op} (h : p.erased = p'.erased) (same : o.bare = o'.bare)
    (k : Alongside x (called x p o) (called x p' o') es es') :
    Alongside x p p' (o.event?.toList ++ es) (o'.event?.toList ++ es') := by
  rcases eq_or_setPage same with rfl | ⟨tab, page, page', d, rfl, rfl⟩
  · unfold Pipeline.called at k
    cases ho : o.event? with
    | none => simpa [ho] using k
    | some e =>
      rw [ho] at k
      exact .next h rfl k
  · exact .next h rfl k

/-- **After the same call, but for documents, tasks do the same in both.** -/
theorem step_lockstep (h : p.erased = p'.erased) {o o' : Op} (same : o.bare = o'.bare) :
    Lockstep x (called x p o) (called x p' o') (step x p o) (step x p' o') := by
  rcases eq_or_setPage same with rfl | ⟨tab, page, page', d, rfl, rfl⟩
  · cases o with
    | ingest tab url trigger => exact ingest_lockstep h tab url trigger
    | ingestNow tab url trigger => exact ingestNow_lockstep h tab url trigger
    | shutDown =>
      have hcancel := (Lockstep.refl x (perform x p .leave) (perform x p' .leave)).arrange (·.cancel isListen)
      exact hcancel.trans (settle_lockstep x _ _)
    | settle => exact settle_lockstep x p p'
    | advance ms => exact advance_lockstep x p p' ms
    | _ => exact .refl x _ _
  · exact .refl x _ _

/-! ## Runs -/

/-- the history is one of the run: it has the operations that come from outside in their order, and no other calls -/
structure Retells (x : Setup) (p : Pipeline) (ops : List Op) (es : List Event) : Prop where
  run : run x p ops = play x p es
  calls_in_order : (ops.filterMap Op.event?).Sublist es
  no_other_calls : es.filter Event.isCall = (ops.filterMap Op.event?).filter Event.isCall

theorem Retells.cons {o : Op} {ops : List Op} (hstep : step x p o = play x (called x p o) es)
    (hes : ∀ e ∈ es, e.isCall = false) (h : Retells x (step x p o) ops fs) :
    Retells x p (o :: ops) (o.event?.toList ++ (es ++ fs)) := by
  have hops : (o :: ops).filterMap Op.event? = o.event?.toList ++ ops.filterMap Op.event? := by
    cases ho : o.event? <;> simp [ho]
  have hnone : es.filter Event.isCall = [] := List.filter_eq_nil_iff.2 fun e he => by simp [hes e he]
  refine ⟨?_, ?_, ?_⟩
  · have hrun : Pipeline.run x p (o :: ops) = Pipeline.run x (step x p o) ops := rfl
    have hcalled : play x p o.event?.toList = called x p o := by
      unfold called
      cases o.event? <;> rfl
    rw [hrun, h.run, hstep, play_append, hcalled, play_append]
  · rw [hops]
    exact (List.Sublist.refl _).append (h.calls_in_order.trans (List.sublist_append_right es fs))
  · rw [hops, List.filter_append, List.filter_append, List.filter_append, hnone, h.no_other_calls, List.nil_append]

theorem Leaked.runs (h : Leaked q q') (ops ops' : List Op) : Leaked (run x q ops) (run x q' ops') := by
  obtain ⟨es, hes, -⟩ := run_eq_play x q ops
  obtain ⟨es', hes', -⟩ := run_eq_play x q' ops'
  rw [hes, hes']
  exact h.play es es'

/-- **Runs with the same operations but for documents go alongside, or a document has leaked.** -/
theorem run_lockstep {ops ops' : List Op} (h : p.erased = p'.erased) (same : ops.map Op.bare = ops'.map Op.bare) :
    (∃ es es', Retells x p ops es ∧ Retells x p' ops' es' ∧ Alongside x p p' es es') ∨
      Leaked (run x p ops) (run x p' ops') := by
  induction ops generalizing p p' ops' with
  | nil =>
    obtain rfl : ops' = [] := List.map_eq_nil_iff.1 same.symm
    exact .inl ⟨[], [], ⟨rfl, .refl _, rfl⟩, ⟨rfl, .refl _, rfl⟩, .done h⟩
  | cons o ops ih =>
    obtain ⟨o', ops', rfl, ho, hops⟩ := List.map_eq_cons_iff.1 same.symm
    have hcalled := called_alike (x := x) h ho.symm
    rcases (step_lockstep h ho.symm).along hcalled with ⟨es, es', hstep, hstep', hes, hes', hside⟩ | hleak
    · have hafter : (step x p o).erased = (step x p' o').erased := by
        rw [hstep, hstep']
        exact hside.alike_after
      rcases ih hafter hops.symm with ⟨fs, fs', hrest, hrest', kside⟩ | hleak
      · refine .inl ⟨_, _, .cons hstep hes hrest, .cons hstep' hes' hrest', ?_⟩
        rw [hstep, hstep'] at kside
        exact (hside.append kside).called h ho.symm
      · exact .inr hleak
    · exact .inr (hleak.runs ops ops')

end AdConfirm.Pipeline
