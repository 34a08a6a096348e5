import AdConfirm.Proofs.Dispatch.SingleDrain
import AdConfirm.Proofs.Pipeline.Frame
import AdConfirm.Proofs.Pipeline.Gathered

/-!
What goes into the queue of a pipeline, and what goes out.

A turn of a drain hands over entries from the top and queues none. Every other event may queue entries on top of those that
wait, and hands over none. So as long as nothing is queued, the entries go out from the top to the bottom; and as long as no
call breaks down, there is somebody to see to them.

- `log`, `dispatchIn`: all that is taken down, the oldest first, and what of it is about the queue.
- `turn_handed`: a turn hands over the first of those that wait. `turn_tended`: it leaves those that stay to somebody, unless
  the reporter breaks down.
- `Queues`: what an event other than a turn does to the queue; `Queues.resolve`, `Queues.answers`, `Queues.finish`,
  `perform_queues`. `SpawnsDrain`: what it does to the drains.
- `HandsOver`: what any events do to it; `perform_handsOver`, `play_handsOver`.
-/

namespace AdConfirm.Dispatch

variable {reporter : Reporter} {limit : Nat}

theorem Drains.handed {q : Queue} {t : DrainTurn} (h : Drains reporter limit q t) :
    q.stack.entries = handedIn t.notes ++ t.queue.stack.entries := by
  induction h with
  | held | emptied => rfl
  | broke q e rest _ hq | waits q e rest _ _ _ hq => rw [hq]; rfl
  | goesOn q e rest o t _ hq _ _ _ ih =>
    rw [Queue.stack_finish] at ih
    rw [hq]
    exact congrArg (e :: ·) ih

/-- A turn hands over the first of those that wait, and leaves the others. -/
theorem turn_handed (q : Queue) (d : Drain) :
    q.stack.entries = handedIn (q.turn reporter limit d).notes ++ (q.turn reporter limit d).queue.stack.entries := by
  rcases turn_cases reporter limit q d with ⟨-, h⟩ | ⟨e, -, h⟩ | ⟨e, o, t, -, -, ht, h⟩
  · exact h.handed
  · rw [h]
    rfl
  · rw [h]
    exact (q.stack_finish o ▸ ht.handed :)

/-- somebody sees to the entries that wait: a drain, or whoever closes the sections that are open -/
def Queue.Tended (q : Queue) : Prop := q.dispatching = true ∨ q.stack.entries = [] ∨ 0 < q.sections

theorem claim_tended (q : Queue) : q.claim.1.Tended := by
  rcases Machine.claims q with h | h | h
  · exact .inl h
  · exact .inr (.inr ((Machine.sections_claim q).symm ▸ h))
  · exact .inr (.inl ((congrArg Stack.entries (Machine.stack_claim q)).trans h))

/-- After a turn somebody sees to the entries that wait if somebody did before, unless the reporter broke down. -/
theorem turn_tended {q : Queue} (d : Drain) (h : q.Tended) (hb : ¬ BreaksDown (q.turn reporter limit d).notes) :
    (q.turn reporter limit d).queue.Tended := by
  rcases h with hd | hempty | hsections
  · rcases turn_flagged d hd with ⟨hl, -⟩ | ⟨-, -, hd', -⟩
    · rcases turn_stops hl with h | h | h
      · exact .inr (.inr (by rwa [(turn_frame q d).1]))
      · exact .inr (.inl h)
      · exact absurd h hb
    · exact .inl hd'
  · exact .inr (.inl (List.sublist_nil.1 (hempty ▸ turn_rest q d)))
  · exact .inr (.inr (by rwa [(turn_frame q d).1]))

end AdConfirm.Dispatch

namespace AdConfirm.Pipeline

open AdConfirm.Dispatch (Entry handedIn queuedIn)
open AdConfirm.Tab (Ticket Waiting)

/-- all that was taken down, the oldest first -/
def log (p : Pipeline) : List Note := (p.journal.map Prod.snd).reverse

/-- what some notes tell of the queue -/
def dispatchIn (ns : List Note) : List Dispatch.Note :=
  ns.filterMap fun n => match n with
    | .dispatch d => some d
    | _ => none

def Task.drain? : Task → Option Dispatch.Drain
  | .drain d => some d
  | _ => none

def drains (p : Pipeline) : Agenda Dispatch.Drain := p.agenda.pick Task.drain?

/-- no drain was claimed and none is new, or one was, and it is -/
inductive SpawnsDrain (p q : Pipeline) : Prop where
  | nobody (drains : q.drains = p.drains) (flag : q.queue.dispatching = p.queue.dispatching)
  | one (drains : q.drains = { p.drains with ready := p.drains.ready ++ [.start] }) (free : p.queue.dispatching = false)
      (busy : q.queue.dispatching = true)

/-- so much was taken down; these entries were queued, on top of those that waited, and no call started or ended; a drain was
spawned if it was claimed, and whoever waits is seen to if that was so before -/
structure Queues (p q : Pipeline) (ns : List Note) (es : List Entry) : Prop where
  log : q.log = p.log ++ ns
  told : dispatchIn ns = es.map .queued
  stack : q.queue.stack.entries = es.reverse ++ p.queue.stack.entries
  spawnsDrain : SpawnsDrain p q
  tended : p.queue.Tended → q.queue.Tended

/-- so much was taken down; unless something was queued, entries were handed over from the top, and unless a call broke down,
whoever waits is seen to if that was so before -/
structure HandsOver (p q : Pipeline) (ns : List Note) : Prop where
  log : q.log = p.log ++ ns
  order : queuedIn (dispatchIn ns) = [] →
    p.queue.stack.entries = handedIn (dispatchIn ns) ++ q.queue.stack.entries
  tended : (∀ e, .ended e .brokeDown ∉ dispatchIn ns) → p.queue.Tended → q.queue.Tended

variable {x : Setup} {p q r : Pipeline} {ns ms : List Note} {es fs : List Entry}

theorem log_note (p : Pipeline) (n : Note) : (p.note n).log = p.log ++ [n] := by simp [log, note]

theorem dispatchIn_append (ns ms : List Note) : dispatchIn (ns ++ ms) = dispatchIn ns ++ dispatchIn ms :=
  List.filterMap_append

theorem log_congr (h : q.journal = p.journal) : q.log = p.log := by rw [log, log, h]

theorem adopt_log (p : Pipeline) (qu : Dispatch.Queue × Bool) : (p.adopt qu).log = p.log := by
  unfold adopt
  split <;> rfl

theorem log_notes (p : Pipeline) (ns : List Dispatch.Note) :
    (ns.foldl (fun p n => p.note (.dispatch n)) p).log = p.log ++ ns.map .dispatch := by
  induction ns generalizing p with
  | nil => simp
  | cons n ns ih => rw [List.foldl_cons, ih, log_note, List.append_assoc, List.map_cons, List.singleton_append]

/-- What a turn notes does not touch the queue. -/
theorem drain_queue (x : Setup) (p : Pipeline) (d : Dispatch.Drain) :
    (p.drain x d).queue = (p.queue.turn x.reporter x.reportLimit d).queue := (Gathered.reported_fold _ _).2

theorem dispatchIn_map (ns : List Dispatch.Note) : dispatchIn (ns.map .dispatch) = ns := by
  simp [dispatchIn, List.filterMap_map]

/-! ## Drains that are claimed -/

theorem drains_congr (h : q.agenda = p.agenda) : q.drains = p.drains := congrArg (Agenda.pick Task.drain?) h

namespace SpawnsDrain

theorem of_eq (queue : q.queue = p.queue) (agenda : q.agenda = p.agenda) : SpawnsDrain p q :=
  .nobody (drains_congr agenda) (by rw [queue])

theorem trans (h : SpawnsDrain p q) (k : SpawnsDrain q r) : SpawnsDrain p r := by
  cases h with
  | nobody drains flag =>
    cases k with
    | nobody drains' flag' => exact .nobody (drains'.trans drains) (flag'.trans flag)
    | one drains' free busy => exact .one (by rw [drains', drains]) (flag ▸ free) busy
  | one drains free busy =>
    cases k with
    | nobody drains' flag' => exact .one (drains'.trans drains) free (flag'.trans busy)
    | one drains' free' busy' =>
      rw [busy] at free'
      cases free'

theorem claim (p : Pipeline) (qu : Dispatch.Queue) (h : qu.dispatching = p.queue.dispatching) :
    SpawnsDrain p (p.adopt qu.claim) := by
  unfold Dispatch.Queue.claim
  split_ifs with hwants
  · refine .one (Agenda.pick_spawn (f := Task.drain?) (a := p.agenda) (Task.drain .start)) ?_ rfl
    simp only [Dispatch.Queue.wantsDrain, Bool.and_eq_true, Bool.not_eq_true'] at hwants
    exact h ▸ hwants.1.1
  · exact .nobody rfl h

/-- Another task that is spawned is no drain. -/
theorem spawn (p : Pipeline) {t : Task} (h : t.drain? = none) : SpawnsDrain p (p.spawn t) := by
  refine .nobody ?_ rfl
  rw [drains, Pipeline.spawn, Agenda.pick_spawn, h]
  exact congrArg (Agenda.mk _ · _) (List.append_nil _)

theorem sleepUntil (p : Pipeline) (due : Nat) {t : Task} (h : t.drain? = none) :
    SpawnsDrain p { p with agenda := p.agenda.sleepUntil due t } := by
  refine .nobody ?_ rfl
  rw [drains, Agenda.pick_sleepUntil, h]
  exact congrArg (Agenda.mk _ _ ·) (List.append_nil _)

/-- Waking other tasks wakes no drain. -/
theorem wakeIf (p : Pipeline) {f : Sleeper Task → Bool} (h : ∀ z d, z.task.drain? = some d → f z = false) :
    SpawnsDrain p { p with agenda := p.agenda.wakeIf f } := .nobody (Agenda.pick_wakeIf_none h) rfl

end SpawnsDrain

/-! ## Events that are no turns -/

namespace Queues

theorem of_spawnsDrain (h : SpawnsDrain p q) (journal : q.journal = p.journal) (queue : q.queue = p.queue) : Queues p q [] [] :=
  ⟨by rw [log_congr journal, List.append_nil], rfl, by rw [queue]; rfl, h, by rw [queue]; exact id⟩

theorem of_eq (journal : q.journal = p.journal) (queue : q.queue = p.queue) (agenda : q.agenda = p.agenda := by rfl) :
    Queues p q [] [] := of_spawnsDrain (.of_eq queue agenda) journal queue

theorem refl (p : Pipeline) : Queues p p [] [] := of_eq rfl rfl

theorem trans (h : Queues p q ns es) (k : Queues q r ms fs) : Queues p r (ns ++ ms) (es ++ fs) where
  log := by rw [k.log, h.log, List.append_assoc]
  told := by rw [dispatchIn_append, h.told, k.told, List.map_append]
  stack := by rw [k.stack, h.stack, List.reverse_append, List.append_assoc]
  spawnsDrain := h.spawnsDrain.trans k.spawnsDrain
  tended := fun hp => k.tended (h.tended hp)

/-- what comes after it touches neither the journal nor the queue nor the tasks -/
theorem then_eq (h : Queues p q ns es) (journal : r.journal = q.journal) (queue : r.queue = q.queue)
    (agenda : r.agenda = q.agenda := by rfl) : Queues p r ns es := by
  have hr := h.trans (of_eq journal queue agenda)
  rwa [List.append_nil, List.append_nil] at hr

/-- what is noted besides tells nothing of the queue -/
theorem noted (h : Queues p q ns es) (n : Note) (hn : ∀ d, n ≠ .dispatch d := by simp) :
    Queues p (q.note n) (ns ++ [n]) es := by
  have hnote : Queues q (q.note n) [n] [] := by
    refine ⟨log_note q n, ?_, rfl, .of_eq rfl rfl, id⟩
    cases n with
    | dispatch d => exact absurd rfl (hn d)
    | _ => rfl
  exact List.append_nil es ▸ h.trans hnote

/-- a claim queues nothing -/
theorem claim (p : Pipeline) (qu : Dispatch.Queue) (stack : qu.stack = p.queue.stack)
    (flag : qu.dispatching = p.queue.dispatching) : Queues p (p.adopt qu.claim) [] [] := by
  refine ⟨by rw [adopt_log, List.append_nil], rfl, ?_, .claim p qu flag, fun _ => ?_⟩
  · rw [adopt_queue, Dispatch.Machine.stack_claim, stack]
    rfl
  · rw [adopt_queue]
    exact Dispatch.claim_tended qu

/-- closing a section queues nothing -/
theorem closed (p : Pipeline) : Queues p (p.adopt p.queue.closeSection) [] [] :=
  claim p { p.queue with sections := p.queue.sections - 1 } rfl rfl

/-- An ad that is moved is queued on top. -/
theorem resolve (p : Pipeline) (tab id : String) :
    ∃ ns, Queues p (p.resolve tab id).1 ns ((p.sessions.ad? tab id).map p.queue.entryOf).toList := by
  have hstack := (resolve_moved p tab id).stack
  cases hfound : p.sessions.ad? tab id with
  | none =>
    rw [resolve_of_none hfound]
    exact ⟨_, (refl p).noted _⟩
  | some ad =>
    rw [hfound] at hstack
    rw [resolve_of_some hfound] at hstack ⊢
    refine ⟨[.dispatch (.queued (p.queue.entryOf ad)), .taken tab id (p.queue.entryOf ad).seq],
      ?_, rfl, hstack, ?_, fun _ => ?_⟩
    · rw [log_note, log_note, adopt_log, List.append_assoc]
      rfl
    · have hclaimed := SpawnsDrain.claim { p with sessions := (p.sessions.take tab id).1 } (p.queue.withAd ad) rfl
      exact ((SpawnsDrain.of_eq rfl rfl : SpawnsDrain p { p with sessions := (p.sessions.take tab id).1 }).trans hclaimed).trans
        (.of_eq rfl rfl)
    · have hqueue := adopt_queue { p with sessions := (p.sessions.take tab id).1 } (p.queue.enqueue ad)
      exact (hqueue ▸ Dispatch.claim_tended (p.queue.withAd ad) :)

/-- Those who waited have their ads queued, in their order, if views are reported. -/
theorem answers (isReporting : Bool) (p : Pipeline) {tab : String} {ads : AdMap} (ws : List Waiting)
    (h : (p.sessions.slot tab).ads = some ads) :
    ∃ ns es, Queues p (ws.foldl (answer isReporting tab) p) ns es ∧
      es.map (·.ad) = grantedAds (if isReporting then ads else Table.empty) (ws.map (·.ad)) := by
  have answered (q : Pipeline) (w : Waiting) (b : Bool) :
      Queues q ((q.note (.answered tab w b)).settleRequest w.key (.decided b)) [.answered tab w b] [] :=
    ((refl q).noted _).then_eq rfl rfl
  induction ws generalizing p ads with
  | nil => exact ⟨[], [], refl p, rfl⟩
  | cons w ws ih =>
    cases isReporting with
    | false =>
      obtain ⟨ns, es, hrest, hes⟩ := ih (answer false tab p w) h
      refine ⟨_, _, (answered p w false).trans hrest, ?_⟩
      simpa [grantedAds_empty] using hes
    | true =>
      have hslot : ((answer true tab p w).sessions.slot tab).ads = some (ads.erase w.ad) := by
        simp [answer, Pipeline.note, settleRequest, resolve_sessions, Tab.Sessions.take_slot, h]
      have hfound : p.sessions.ad? tab w.ad = ads.find? w.ad := by simp [Tab.Sessions.ad?, h]
      obtain ⟨ms, hresolve⟩ := resolve p tab w.ad
      obtain ⟨ns, es, hrest, hes⟩ := ih (answer true tab p w) hslot
      refine ⟨_, _, (hresolve.trans (answered (p.resolve tab w.ad).1 w _)).trans hrest, ?_⟩
      rw [hfound, List.append_nil, List.map_append, hes, List.map_cons, if_pos rfl, if_pos rfl, grantedAds]
      cases ads.find? w.ad <;> rfl

/-- Answering those who waited queues their ads, and leaves somebody to see to them. -/
theorem answerAll (isReporting : Bool) (p : Pipeline) {tab : String} {ads : AdMap} (ws : List Waiting)
    (h : (p.sessions.slot tab).ads = some ads) :
    ∃ ns es, Queues p (p.answerAll isReporting tab ws) ns es ∧
      es.map (·.ad) = grantedAds (if isReporting then ads else Table.empty) (ws.map (·.ad)) ∧
      (ws ≠ [] → (p.answerAll isReporting tab ws).queue.Tended) := by
  by_cases hempty : ws = []
  · subst hempty
    exact ⟨[], [], refl p, rfl, fun hne => absurd rfl hne⟩
  · have hall : p.answerAll isReporting tab ws =
        (ws.foldl (answer isReporting tab) { p with queue := p.queue.openSection }).adopt
          (ws.foldl (answer isReporting tab) { p with queue := p.queue.openSection }).queue.closeSection :=
      if_neg (mt List.isEmpty_iff.1 hempty)
    have hopened : Queues p { p with queue := p.queue.openSection } [] [] :=
      ⟨(List.append_nil _).symm, rfl, rfl, .nobody rfl rfl, fun _ => .inr (.inr (Nat.succ_pos _))⟩
    obtain ⟨ns, es, hanswers, hes⟩ := answers isReporting { p with queue := p.queue.openSection } ws h
    have hclosed := (hopened.trans hanswers).trans (closed _)
    rw [List.append_nil, List.append_nil] at hclosed
    rw [hall]
    refine ⟨ns, es, hclosed, hes, fun _ => ?_⟩
    rw [adopt_queue]
    exact Dispatch.claim_tended _

/-- An accepted completion queues the ads of those who waited, and leaves somebody to see to them. -/
theorem finish (x : Setup) {p : Pipeline} {t : Ticket} (ads : AdMap) (h : p.sessions.isCurrent t = true) :
    ∃ ns es, Queues p (finish x p t ads) ns es ∧
      es.map (·.ad) = grantedAds (if x.gate.reports p.center then ads else Table.empty) ((p.line t.tab).map (·.ad)) ∧
      (p.line t.tab ≠ [] → (finish x p t ads).queue.Tended) := by
  have hslot : ((stocked p t ads).sessions.slot t.tab).ads = some ads := by rw [stocked_slot ads h, if_pos rfl]
  have hstocked : Queues p (stocked p t ads) [.stored t ads (p.line t.tab)] [] :=
    (of_eq rfl rfl : Queues p { p with sessions := (p.sessions.complete t ads).1 } [] []).noted _
  obtain ⟨ns, es, hall, hes, htended⟩ := answerAll (x.gate.reports p.center) (stocked p t ads) (p.line t.tab) hslot
  rw [finish_eq ads h]
  exact ⟨_, _, (hstocked.trans hall).then_eq rfl rfl, hes, htended⟩

end Queues

theorem reset_queues (p : Pipeline) (tab : String) : ∃ ns, Queues p (p.reset tab) ns [] := by
  have hs : Queues p { p with sessions := (p.sessions.reset tab).1 } [] [] := .of_eq rfl rfl
  unfold reset
  simp only
  split_ifs
  · exact ⟨_, hs⟩
  · exact ⟨_, List.foldlRecOn (motive := fun q => Queues p q _ []) _ _ (hs.noted (.abandoned tab _)) fun _ hq _ _ =>
      hq.then_eq rfl rfl⟩

theorem request_queues (x : Setup) (p : Pipeline) (tab id : String) :
    ∃ ns es, Queues p (Pipeline.request x p tab id).1 ns es := by
  cases hr : x.gate.reports p.center with
  | false =>
    rw [request_unreported x p tab id hr]
    exact ⟨_, _, ((Queues.refl p).noted (.unreported tab id)).then_eq rfl rfl⟩
  | true =>
    cases ha : (p.sessions.slot tab).ads with
    | none =>
      rw [request_waits x p id hr ha]
      have hs : Queues p { p with sessions := (p.sessions.park tab ⟨p.requests.length, id⟩).1 } [] [] := .of_eq rfl rfl
      exact ⟨_, _, (hs.noted (.parked tab ⟨p.requests.length, id⟩)).then_eq rfl rfl⟩
    | some ads =>
      obtain ⟨ns, hresolve⟩ := Queues.resolve p tab id
      rw [request_ready x p id hr (by rw [ha]; rfl)]
      exact ⟨_, _, hresolve.then_eq rfl rfl⟩

/-- **Every event but a turn of a drain** may queue entries on top of those that wait, and hands over none. -/
theorem perform_queues (x : Setup) (p : Pipeline) {e : Event} (hd : ∀ d, e ≠ .drain d) (ha : ∀ a, e ≠ .arrange a) :
    ∃ ns es, Queues p (perform x p e) ns es := by
  cases e with
  | drain d => exact absurd rfl (hd d)
  | arrange a => exact absurd rfl (ha a)
  | finish t ads =>
    cases hcurrent : p.sessions.isCurrent t with
    | true =>
      obtain ⟨ns, es, hfinish, -⟩ := Queues.finish x ads hcurrent
      exact ⟨ns, es, hfinish⟩
    | false =>
      have hs : Queues p { p with sessions := (p.sessions.complete t ads).1 } [] [] := .of_eq rfl rfl
      rw [perform, finish_late ads hcurrent]
      exact ⟨_, _, (hs.noted (.late t)).then_eq rfl rfl⟩
  | request tab id => exact request_queues x p tab id
  | resolve tab id =>
    obtain ⟨ns, hresolve⟩ := Queues.resolve p tab id
    exact ⟨ns, _, hresolve⟩
  | reset tab =>
    obtain ⟨ns, hreset⟩ := reset_queues p tab
    exact ⟨ns, _, hreset⟩
  | begin tab url trigger =>
    have hs : Queues p { p with sessions := (p.sessions.begin tab).1 } [] [] := .of_eq rfl rfl
    simp only [perform, Pipeline.begin]
    split_ifs
    · exact ⟨_, _, hs⟩
    · exact ⟨_, _, hs.noted _⟩
  | ask t => exact ⟨_, _, ((Queues.refl p).noted (.fetching t)).then_eq rfl rfl⟩
  | arrive t a =>
    have hs : Queues p { p with source := (p.source.conclude t a).1 } [] [] := .of_eq rfl rfl
    simp only [perform, Pipeline.arrive]
    split_ifs
    · exact ⟨_, _, hs.noted _⟩
    · exact ⟨_, _, hs.noted _⟩
  | release tab =>
    refine ⟨[], [], ?_⟩
    simp only [perform, Pipeline.release]
    split
    · exact .of_eq rfl rfl
    · next t _ =>
      have hs : Queues p { p with source := (p.source.release tab).1 } [] [] := .of_eq rfl rfl
      refine hs.trans (.of_spawnsDrain (.wakeIf _ fun z d hz => ?_) rfl rfl)
      cases htask : z.task <;> simp [htask, Task.drain?, isFetch] at hz ⊢
  | openSection => exact ⟨[], [], (List.append_nil _).symm, rfl, rfl, .nobody rfl rfl, fun _ => .inr (.inr (Nat.succ_pos _))⟩
  | closeSection i =>
    refine ⟨[], [], ?_⟩
    simp only [perform, Pipeline.closeSection]
    split_ifs
    · exact (Queues.of_eq rfl rfl : Queues p { p with sections := p.sections.set i false } [] []).trans (.closed _)
    · exact .refl p
  | apply s =>
    have hc : Queues p { p with center := (p.center.apply p.agenda.now s).1 } [] [] := .of_eq rfl rfl
    have hnoted := hc.noted (.overridden s)
    simp only [perform, Pipeline.apply]
    split
    · exact ⟨_, _, hnoted⟩
    · exact ⟨_, _, hnoted⟩
    · exact ⟨_, _, hnoted.trans (.of_spawnsDrain (.spawn _ rfl) rfl rfl)⟩
  | publish e =>
    refine ⟨[], [], ?_⟩
    simp only [perform, Pipeline.publish?]
    cases p.bus.publish? e with
    | none => exact .of_eq rfl rfl
    | some bus =>
      refine (Queues.of_eq rfl rfl : Queues p { p with bus } [] []).trans (.of_spawnsDrain (.wakeIf _ fun z d hz => ?_) rfl rfl)
      cases htask : z.task <;> simp [htask, Task.drain?, isListen] at hz ⊢
  | receive =>
    simp only [perform, Pipeline.receive]
    split
    · next bus missed _ =>
      exact ⟨_, _, (Queues.of_eq rfl rfl : Queues p { p with bus } [] []).noted (.lagged missed)⟩
    · exact ⟨[], [], .of_eq rfl rfl⟩
  | _ => exact ⟨[], [], .of_eq rfl rfl⟩

/-! ## All events -/

theorem queuedIn_queued (es : List Entry) : queuedIn (es.map .queued) = es := by simp [queuedIn, List.filterMap_map]

theorem handedIn_queued (es : List Entry) : handedIn (es.map .queued) = [] := by simp [handedIn, List.filterMap_map]

namespace HandsOver

theorem refl (p : Pipeline) : HandsOver p p [] := ⟨(List.append_nil _).symm, fun _ => rfl, fun _ => id⟩

theorem trans (h : HandsOver p q ns) (k : HandsOver q r ms) : HandsOver p r (ns ++ ms) where
  log := by rw [k.log, h.log, List.append_assoc]
  order hnone := by
    rw [dispatchIn_append, Dispatch.queuedIn_append] at hnone
    obtain ⟨hns, hms⟩ := List.append_eq_nil_iff.1 hnone
    rw [h.order hns, k.order hms, dispatchIn_append, Dispatch.handedIn_append, List.append_assoc]
  tended hb hp := by
    rw [dispatchIn_append] at hb
    exact k.tended (fun e he => hb e (List.mem_append_right _ he)) (h.tended (fun e he => hb e (List.mem_append_left _ he)) hp)

theorem of_queues (h : Queues p q ns es) : HandsOver p q ns where
  log := h.log
  order hnone := by
    rw [h.told, queuedIn_queued] at hnone
    rw [h.stack, h.told, handedIn_queued, hnone]
    rfl
  tended _ := h.tended

end HandsOver

theorem drain_handsOver (x : Setup) (p : Pipeline) (d : Dispatch.Drain) :
    HandsOver p (p.drain x d) ((p.queue.turn x.reporter x.reportLimit d).notes.map .dispatch) := by
  refine ⟨log_notes _ _, fun _ => ?_, fun hb hp => ?_⟩
  · rw [dispatchIn_map, drain_queue]
    exact Dispatch.turn_handed p.queue d
  · rw [dispatchIn_map] at hb
    rw [drain_queue]
    refine Dispatch.turn_tended d hp ?_
    rintro ⟨ns, e, hns⟩
    exact hb e (by simp [hns])

theorem perform_handsOver (x : Setup) (p : Pipeline) (e : Event) : ∃ ns, HandsOver p (perform x p e) ns := by
  have others (hd : ∀ d, e ≠ .drain d) (ha : ∀ a, e ≠ .arrange a) : ∃ ns, HandsOver p (perform x p e) ns := by
    obtain ⟨ns, es, hqueues⟩ := perform_queues x p hd ha
    exact ⟨ns, .of_queues hqueues⟩
  cases e with
  | drain d => exact ⟨_, drain_handsOver x p d⟩
  | arrange a => exact ⟨[], (List.append_nil _).symm, fun _ => rfl, fun _ => id⟩
  | _ => exact others (by simp) (by simp)

/-- **As long as nothing is queued, entries go out from the top**, and as long as no call breaks down somebody sees to them. -/
theorem play_handsOver (x : Setup) (p : Pipeline) (es : List Event) : ∃ ns, HandsOver p (play x p es) ns := by
  induction es using List.reverseRecOn with
  | nil => exact ⟨[], .refl p⟩
  | append_singleton es e ih =>
    obtain ⟨ns, hns⟩ := ih
    obtain ⟨ms, hms⟩ := perform_handsOver x (play x p es) e
    rw [play_snoc]
    exact ⟨_, hns.trans hms⟩

end AdConfirm.Pipeline
