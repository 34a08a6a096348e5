import AdConfirm.Proofs.Pipeline.LawfulRuns
import AdConfirm.Proofs.Pipeline.QueueTraffic

/-!
Where the drain of a pipeline is.

The flag of the queue stands for a drain among the tasks: when it is set there is one, in the line or waiting for the end of a
call, and when it is not there is none. A call is over when the limit of the reporter has passed at the latest, and the clock
does not go past its end.

- `DrainTracked`: the flag stands for the drain. `DrainTracked.spawnsDrain`: as it does after events that may claim one.
- `turn_spawnsDrain`: every other task takes its turn without touching the drain. `DrainTracked.turn_drain`: a turn of the drain.
- `DrainTracked.beat`, `DrainTracked.steps`, `run_drainTracked`: so it is after every punctual beat, every operation, and every run.
-/

namespace AdConfirm.Dispatch

variable {reporter : Reporter} {limit : Nat}

theorem Call.under_le (c : Call) (limit : Nat) : (c.under limit).1 ≤ limit := by
  unfold Call.under
  split_ifs with h
  · exact le_rfl
  · split
    · exact le_rfl
    · exact Nat.not_lt.1 h
    · exact Nat.not_lt.1 h
    · exact Nat.not_lt.1 h

theorem Drains.calls {q : Queue} {t : DrainTurn} (h : Drains reporter limit q t) {time : Nat} {d : Drain}
    (hnext : t.next = some (time, d)) : ∃ e o, d = .calling e o ∧ 0 < time ∧ time ≤ limit := by
  induction h with
  | held | emptied | broke => cases hnext
  | waits q e rest time' o _ _ hc ht =>
    obtain ⟨rfl, rfl⟩ := Prod.mk.inj (Option.some.inj hnext)
    exact ⟨e, o, rfl, Nat.pos_of_ne_zero ht, (congrArg Prod.fst hc).symm.le.trans ((reporter e).under_le limit)⟩
  | goesOn q e rest o t _ _ _ _ _ ih => exact ih hnext

/-- A drain that goes on after its turn waits for the end of a call, which is not after the limit. -/
theorem turn_calls {q : Queue} {d d' : Drain} {time : Nat} (hnext : (q.turn reporter limit d).next = some (time, d')) :
    ∃ e o, d' = .calling e o ∧ 0 < time ∧ time ≤ limit := by
  rcases turn_cases reporter limit q d with ⟨-, h⟩ | ⟨e, -, h⟩ | ⟨e, o, t, -, -, ht, h⟩
  · exact h.calls hnext
  · rw [h] at hnext
    cases hnext
  · rw [h] at hnext
    exact ht.calls hnext

end AdConfirm.Dispatch

namespace AdConfirm.Pipeline

open AdConfirm.Loop (Beat)
open AdConfirm.Tab (Ticket)

/-- a drain waits for the end of this call, which is at this time, and not later than the limit of the reporter allows -/
structure Calling (x : Setup) (p : Pipeline) (e : Dispatch.Entry) (o : Dispatch.Outcome) (due : Nat) : Prop where
  flag : p.queue.dispatching = true
  ready : p.drains.ready = []
  asleep : p.drains.asleep = [⟨some due, .calling e o⟩]
  later : p.agenda.now < due
  soon : due ≤ p.agenda.now + x.reportLimit

/-- the flag of the queue stands for a drain: there is none, or one in the line, or one that waits for the end of a call -/
inductive DrainTracked (x : Setup) (p : Pipeline) : Prop where
  | idle (flag : p.queue.dispatching = false) (ready : p.drains.ready = []) (asleep : p.drains.asleep = [])
  | ready {d : Dispatch.Drain} (flag : p.queue.dispatching = true) (ready : p.drains.ready = [d])
      (asleep : p.drains.asleep = [])
  | waits {e : Dispatch.Entry} {o : Dispatch.Outcome} {due : Nat} (calling : Calling x p e o due)

variable {x : Setup} {p q : Pipeline}

/-! ## Without the drain -/

theorem perform_spawnsDrain (x : Setup) (p : Pipeline) (e : Event) (hd : ∀ d, e ≠ .drain d := by simp)
    (ha : ∀ a, e ≠ .arrange a := by simp) : SpawnsDrain p (perform x p e) := by
  obtain ⟨ns, es, h⟩ := perform_queues x p hd ha
  exact h.spawnsDrain

theorem conclude_spawnsDrain (x : Setup) (p : Pipeline) (t : Ticket) (a : Arrival) : SpawnsDrain p (conclude x p t a) := by
  rw [conclude_eq]
  exact (perform_spawnsDrain x p (.arrive t a)).trans (perform_spawnsDrain x _ (.finish t _))

theorem proceed_spawnsDrain (x : Setup) (p : Pipeline) (t : Ticket) (s : Stage) : SpawnsDrain p (proceed x p t s).1 := by
  cases s with
  | fetching a => exact conclude_spawnsDrain x p t a
  | begun isAdmitted =>
    cases isAdmitted with
    | false => exact perform_spawnsDrain x p (.finish t Table.empty)
    | true =>
      have hask : SpawnsDrain p (ask x p t) := .of_eq rfl rfl
      rw [proceed_begun]
      split_ifs
      · exact hask.trans (conclude_spawnsDrain x _ t _)
      · exact hask

theorem ingest_spawnsDrain (x : Setup) (p : Pipeline) (tab : String) (url : Url) (trigger : Bool) :
    SpawnsDrain p (ingest x p tab url trigger) :=
  (perform_spawnsDrain x p (.begin tab url trigger)).trans (.spawn _ rfl)

theorem follow_spawnsDrain (x : Setup) (p : Pipeline) (e : TabEvent) : SpawnsDrain p (follow x p e) := by
  cases e with
  | loaded tab url trigger => exact ingest_spawnsDrain x p tab url trigger
  | navigated tab => exact perform_spawnsDrain x p (.reset tab)
  | closed tab => exact perform_spawnsDrain x p (.reset tab)

theorem listen_spawnsDrain (x : Setup) (n : Nat) (p : Pipeline) : SpawnsDrain p (listen x n p).1 := by
  induction n generalizing p with
  | zero => exact .of_eq rfl rfl
  | succ n ih =>
    unfold listen
    split
    · next bus e _ =>
      exact ((SpawnsDrain.of_eq rfl rfl : SpawnsDrain p { p with bus }).trans (follow_spawnsDrain x _ e)).trans (ih _)
    · next bus missed _ =>
      exact (SpawnsDrain.of_eq rfl rfl : SpawnsDrain p (Pipeline.note { p with bus } (.lagged missed))).trans (ih _)
    · exact .of_eq rfl rfl
    · exact .of_eq rfl rfl

/-- **Every other task takes its turn without touching the drain**, and may claim one if there is none. -/
theorem turn_spawnsDrain (x : Setup) (p : Pipeline) {t : Task} (ht : t.drain? = none) : SpawnsDrain p (turn x p t) := by
  cases t with
  | drain d => cases ht
  | timer e =>
    cases e with
    | set path ttl => exact .sleepUntil p _ rfl
    | due path => exact .of_eq rfl rfl
  | ingest t s =>
    have hproceed := proceed_spawnsDrain x p t s
    simp only [turn]
    split
    · next q hq =>
      rw [hq] at hproceed
      exact hproceed
    · next q time s' hq =>
      rw [hq] at hproceed
      exact hproceed.trans (.sleepUntil q _ rfl)
  | listen =>
    have hlisten := listen_spawnsDrain x deliveriesPerTurn p
    simp only [turn]
    split_ifs
    · exact hlisten.trans (.spawn _ rfl)
    · exact hlisten.trans (.nobody (Agenda.pick_sleep rfl) rfl)

/-! ## With the drain -/

namespace DrainTracked

theorem spawnsDrain (h : DrainTracked x p) (k : SpawnsDrain p q) : DrainTracked x q := by
  cases k with
  | nobody drains flag =>
    have hnow : q.agenda.now = p.agenda.now := (congrArg Agenda.now drains :)
    cases h with
    | idle flag' ready asleep => exact .idle (flag.trans flag') (by rw [drains, ready]) (by rw [drains, asleep])
    | ready flag' ready asleep => exact .ready (flag.trans flag') (by rw [drains, ready]) (by rw [drains, asleep])
    | waits calling =>
      obtain ⟨flag', ready, asleep, later, soon⟩ := calling
      exact .waits ⟨flag.trans flag', by rw [drains, ready], by rw [drains, asleep], hnow ▸ later, hnow ▸ soon⟩
  | one drains free busy =>
    cases h with
    | idle flag ready asleep => exact .ready busy (by rw [drains, ready]; rfl) (by rw [drains, asleep])
    | ready flag => rw [free] at flag; cases flag
    | waits calling => rw [calling.flag] at free; cases free

/-- After its turn the drain has ended, or waits for the end of a call. -/
theorem turn_drain {d : Dispatch.Drain} (flag : p.queue.dispatching = true) (ready : p.drains.ready = [])
    (asleep : p.drains.asleep = []) : DrainTracked x (turn x p (.drain d)) := by
  have hagenda : (p.drain x d).agenda = p.agenda := by rw [(drain_frame x p d).agenda, List.append_nil]
  have hdrains := drains_congr hagenda
  have hflagged : Dispatch.Flagged x.reporter x.reportLimit (p.drain x d).queue
      (p.queue.turn x.reporter x.reportLimit d).left := drain_queue x p d ▸ Dispatch.turn_flagged d flag
  cases hnext : (p.queue.turn x.reporter x.reportLimit d).next with
  | none =>
    have hturn : turn x p (.drain d) = p.drain x d := by
      simp only [turn, hnext]
      rfl
    rcases hflagged with ⟨-, hclear⟩ | ⟨d', hleft, -⟩
    · rw [hturn]
      exact .idle hclear (hdrains ▸ ready) (hdrains ▸ asleep)
    · simp [Dispatch.DrainTurn.left, hnext] at hleft
  | some next =>
    obtain ⟨time, d'⟩ := next
    obtain ⟨e, o, rfl, hpos, hle⟩ := Dispatch.turn_calls hnext
    have hturn : turn x p (.drain d) =
        { p.drain x d with
          agenda := (p.drain x d).agenda.sleepUntil ((p.drain x d).agenda.now + time) (.drain (.calling e o)) } := by
      simp only [turn, hnext]
      rfl
    have hslept : (turn x p (.drain d)).drains =
        { p.drains with asleep := p.drains.asleep ++ [⟨some (p.agenda.now + time), .calling e o⟩] } := by
      rw [hturn, drains, Agenda.pick_sleepUntil, hagenda]
      rfl
    rcases hflagged with ⟨hleft, -⟩ | ⟨-, -, hset, -⟩
    · simp [Dispatch.DrainTurn.left, hnext] at hleft
    · have hnow : (turn x p (.drain d)).agenda.now = p.agenda.now := by rw [hturn, hagenda]; rfl
      refine .waits (⟨?_, ?_, ?_, ?_, ?_⟩ : Calling x _ e o (p.agenda.now + time))
      · rw [hturn]
        exact hset
      · rw [hslept]
        exact ready
      · rw [hslept, asleep]
        rfl
      · omega
      · omega

/-- A turn of the first task in the line. -/
theorem turn (h : DrainTracked x p) : DrainTracked x ((loop x).beat p .turn) := by
  cases hready : p.agenda.ready with
  | nil =>
    have hbeat : (loop x).beat p .turn = p := by simp [Loop.beat, Loop.next?, loop, hready]
    rw [hbeat]
    exact h
  | cons t rest =>
    have hbeat : (loop x).beat p .turn = Pipeline.turn x { p with agenda := { p.agenda with ready := rest } } t := by
      simp [Loop.beat, Loop.next?, loop, hready]
    have hdrains : p.drains = { p.drains with ready := (t.drain?).toList ++ rest.filterMap Task.drain? } := by
      cases ht : t.drain? <;> simp [drains, Agenda.pick, hready, ht]
    rw [hbeat]
    cases ht : t.drain? with
    | none =>
      have htaken : SpawnsDrain p { p with agenda := { p.agenda with ready := rest } } := .nobody (by rw [hdrains, ht]; rfl) rfl
      exact h.spawnsDrain (htaken.trans (turn_spawnsDrain x _ ht))
    | some d =>
      obtain rfl : t = .drain d := by cases t <;> cases ht; rfl
      cases h with
      | idle flag ready asleep => rw [hdrains, ht] at ready; cases ready
      | waits calling =>
        have hnone := calling.ready
        rw [hdrains, ht] at hnone
        cases hnone
      | ready flag ready asleep =>
        rw [hdrains, ht] at ready
        exact turn_drain flag (List.cons.inj ready).2 asleep

/-- The clock does not go past the end of a call. -/
theorem moveTo (h : DrainTracked x p) {time : Nat} (hquiet : p.agenda.ready = []) (hle : p.agenda.now ≤ time)
    (hnext : ∀ next, p.agenda.nextDue? = some next → time ≤ next) : DrainTracked x ((loop x).moveTo p time) := by
  have hdrains : ((loop x).moveTo p time).drains = p.drains.moveTo time := Agenda.pick_moveTo time
  have hready : p.drains.ready = [] := by simp [drains, Agenda.pick, hquiet]
  cases h with
  | idle flag ready asleep =>
    refine .idle flag ?_ ?_ <;> rw [hdrains] <;> simp [Agenda.moveTo, Agenda.wakeIf, ready, asleep]
  | ready flag ready asleep => rw [hready] at ready; cases ready
  | @waits e o due calling =>
    obtain ⟨flag, -, asleep, later, soon⟩ := calling
    have hpassed : time ≤ due := by
      obtain ⟨z, hz, hread⟩ := List.mem_filterMap.1 (asleep ▸ List.mem_singleton_self _ : _ ∈ p.drains.asleep)
      obtain ⟨d, -, hd⟩ := Option.map_eq_some_iff.1 hread
      obtain ⟨next, hmin, hnextle⟩ := Agenda.nextDue?_le hz (congrArg Sleeper.due hd) later
      exact (hnext next hmin).trans hnextle
    by_cases hdue : due ≤ time
    · refine .ready (d := .calling e o) flag ?_ ?_ <;> rw [hdrains] <;>
        simp [Agenda.moveTo, Agenda.wakeIf, Agenda.isDue, hready, asleep, hdue]
    · have hlater : time < due := Nat.lt_of_not_le hdue
      refine .waits (⟨flag, ?_, ?_, hlater, ?_⟩ : Calling x ((loop x).moveTo p time) e o due)
      · rw [hdrains]
        simp [Agenda.moveTo, Agenda.wakeIf, Agenda.isDue, hready, asleep, hdue]
      · rw [hdrains]
        simp [Agenda.moveTo, Agenda.wakeIf, Agenda.isDue, asleep, hdue]
      · exact soon.trans (Nat.add_le_add_right hle _)

/-- A punctual beat leaves the drain where it should be. -/
theorem beat (h : DrainTracked x p) (b : Beat) : DrainTracked x ((loop x).punctualBeat p b) := by
  cases b with
  | turn => exact h.turn
  | moveTo time =>
    simp only [Loop.punctualBeat, Loop.orderlyBeat]
    split_ifs with hdue horder
    · refine h.moveTo (List.isEmpty_iff.1 horder.1) horder.2 fun next hnext => ?_
      have hdue' : p.agenda.nextDue?.all (time ≤ ·) = true := hdue
      simpa [hnext] using hdue'
    · exact h
    · exact h

theorem beats (h : DrainTracked x p) (bs : List Beat) : DrainTracked x ((loop x).punctualBeats p bs) := by
  induction bs generalizing p with
  | nil => exact h
  | cons b bs ih => exact ih (h.beat b)

theorem settles (h : DrainTracked x p) : DrainTracked x ((loop x).settle p) := by
  obtain ⟨-, -, bs, hbs⟩ := (loop_settles x).settle_punctual p
  exact hbs ▸ h.beats bs

theorem ingestsNow (h : DrainTracked x p) (tab : String) (url : Url) (trigger : Bool) :
    DrainTracked x (ingestNow x p tab url trigger) := by
  have hbegun := h.spawnsDrain (perform_spawnsDrain x p (.begin tab url trigger))
  simp only [perform] at hbegun
  unfold ingestNow
  generalize begin x p tab url trigger = begun at hbegun
  obtain ⟨q, t, isAdmitted⟩ := begun
  have hproceed := hbegun.spawnsDrain (proceed_spawnsDrain x q t (.begun isAdmitted))
  simp only
  split
  · next r hr =>
    rw [hr] at hproceed
    exact hproceed
  · next r time s hr =>
    rw [hr] at hproceed
    obtain ⟨-, bs, hbs⟩ := (loop_settles x).passTo_punctual (r.agenda.now + time) r _ rfl (Nat.le_add_right _ _)
    have hpassed := hproceed.beats bs
    rw [← hbs] at hpassed
    exact hpassed.spawnsDrain (proceed_spawnsDrain x _ t s)

theorem shutsDown (h : DrainTracked x p) : DrainTracked x (Pipeline.shutDown x p).1 := by
  refine settles (h.spawnsDrain (.nobody ?_ rfl))
  refine Agenda.pick_cancel fun t d ht => ?_
  cases t <;> first | rfl | cases ht

/-- **After every operation the drain is where it should be.** -/
theorem steps (h : DrainTracked x p) (o : Op) : DrainTracked x (step x p o) := by
  have call (e : Event) (hd : ∀ d, e ≠ .drain d := by simp) (ha : ∀ a, e ≠ .arrange a := by simp) :
      DrainTracked x (perform x p e) :=
    h.spawnsDrain (perform_spawnsDrain x p e hd ha)
  cases o with
  | setPage tab page d => exact call (.setPage tab page d)
  | release tab => exact call (.release tab)
  | ingest tab url trigger => exact h.spawnsDrain (ingest_spawnsDrain x p tab url trigger)
  | ingestNow tab url trigger => exact h.ingestsNow tab url trigger
  | ingestNever tab url trigger => exact call (.begin tab url trigger)
  | request tab id => exact call (.request tab id)
  | forget key => exact call (.forget key)
  | resolve tab id => exact call (.resolve tab id)
  | reset tab => exact call (.reset tab)
  | hook => exact call .hook
  | openSection => exact call .openSection
  | closeSection i => exact call (.closeSection i)
  | apply s => exact call (.apply s)
  | clear path => exact call (.clear path)
  | publish e => exact call (.publish e)
  | shutDown => exact h.shutsDown
  | settle => exact h.settles
  | advance ms =>
    obtain ⟨-, -, bs, hbs⟩ := (loop_settles x).advance_punctual p ms
    have hbeats := h.beats bs
    rwa [← hbs] at hbeats

end DrainTracked

/-- **After every run the drain is where it should be.** -/
theorem run_drainTracked (x : Setup) (c : Policy.Center) (capacity : Option Nat) (ops : List Op) :
    DrainTracked x (run x (start c capacity) ops) := by
  induction ops using List.reverseRecOn with
  | nil =>
    unfold start
    cases capacity <;> exact .idle rfl rfl rfl
  | append_singleton ops o ih =>
    rw [run, List.foldl_append]
    exact ih.steps o

end AdConfirm.Pipeline
