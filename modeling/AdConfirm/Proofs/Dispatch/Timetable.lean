import AdConfirm.Proofs.Dispatch.Balance
import AdConfirm.Proofs.Orderly

/-!
When the calls of a drain start and end.

A drain makes one call after the other, each as the one before it ends, until nothing waits or the reporter breaks down. So the
whole course of the entries that wait when a drain begins is known at its beginning: it is a timetable. What the drain has done
at some moment and what it still has to do make up this timetable.

- `Call.Ends`: how long a call lasts under a limit and how it ends. `timetable`: when calls start and end.
- `Drain.due`: what a drain has still to do. `turn_due`: a turn does the part of it that is due now.
- `Upcoming`: what a machine has still to do. `OnTime`: a machine that has done the first part of a timetable.
- `Held`: a machine with one section open, in which only ads are queued.
- `reports_on_time`: the course of what is queued in one section.
-/

namespace AdConfirm.Dispatch

open AdConfirm.Loop (Beat)

/-- how long a call lasts under a limit, and how it ends: as it is if it is over in time, else it is cut off at the limit -/
inductive Call.Ends (limit : Nat) : Call → Nat → Outcome → Prop where
  | succeeded {delay : Nat} {placement : String} (h : delay ≤ limit) :
      Ends limit ⟨delay, .answers true placement⟩ delay (.recorded placement)
  | rejected {delay : Nat} {placement : String} (h : delay ≤ limit) :
      Ends limit ⟨delay, .answers false placement⟩ delay (.failed (.rejected placement))
  | panicked {delay : Nat} (h : delay ≤ limit) : Ends limit ⟨delay, .breaksDown⟩ delay .brokeDown
  | hung {delay : Nat} : Ends limit ⟨delay, .hangs⟩ limit (.failed (.timedOut limit))
  | late {c : Call} (h : limit < c.delay) : Ends limit c limit (.failed (.timedOut limit))

/-- when the calls for entries start and end: the first at the given time, each other one as the one before it ends, and none
after one that breaks down -/
def timetable (reporter : Reporter) (limit : Nat) (start : Nat) : List Entry → List (Nat × Note)
  | [] => []
  | e :: rest =>
    let (time, o) := (reporter e).under limit
    (start, .started e) :: (start + time, .ended e o) ::
      if o = .brokeDown then [] else timetable reporter limit (start + time) rest

/-- how long the calls for entries last, one after the other -/
def lasting (reporter : Reporter) (limit : Nat) (es : List Entry) : Nat :=
  (es.map fun e => ((reporter e).under limit).1).sum

/-- what a drain has still to do with the entries that wait, if it has its turn at the given time -/
def Drain.due (reporter : Reporter) (limit : Nat) (ws : List Entry) (time : Nat) : Drain → List (Nat × Note)
  | .start => timetable reporter limit time ws
  | .calling e o => (time, .ended e o) :: if o = .brokeDown then [] else timetable reporter limit time ws

/-! ## Calls and timetables -/

theorem Call.under_ends (limit : Nat) (c : Call) : c.Ends limit (c.under limit).1 (c.under limit).2 := by
  obtain ⟨delay, ending⟩ := c
  by_cases h : limit < delay
  · simpa [under, h] using Ends.late (c := ⟨delay, ending⟩) h
  · have hle : delay ≤ limit := Nat.not_lt.1 h
    cases ending with
    | answers success placement =>
      cases success with
      | true => simpa [under, h] using Ends.succeeded hle
      | false => simpa [under, h] using Ends.rejected hle
    | breaksDown => simpa [under, h] using Ends.panicked hle
    | hangs => simpa [under, h] using Ends.hung

theorem Call.under_brokeDown_iff {limit : Nat} {c : Call} : (c.under limit).2 = .brokeDown ↔ c.panics limit = true := by
  obtain ⟨delay, ending⟩ := c
  by_cases h : limit < delay
  · cases ending <;> simp [under, panics, h]
  · have hle : delay ≤ limit := Nat.not_lt.1 h
    cases ending with
    | answers success placement => cases success <;> simp [under, panics, h]
    | breaksDown => simp [under, panics, h, hle]
    | hangs => simp [under, panics, h]

variable {reporter : Reporter} {limit : Nat}

theorem timetable_cons (start : Nat) (e : Entry) (rest : List Entry) :
    timetable reporter limit start (e :: rest) =
      (start, .started e) :: Drain.due reporter limit rest (start + ((reporter e).under limit).1)
        (.calling e ((reporter e).under limit).2) := rfl

theorem due_of_broke (ws : List Entry) (time : Nat) (e : Entry) :
    Drain.due reporter limit ws time (.calling e .brokeDown) = [(time, .ended e .brokeDown)] := rfl

theorem due_of_not_broke (ws : List Entry) (time : Nat) (e : Entry) {o : Outcome} (ho : o ≠ .brokeDown) :
    Drain.due reporter limit ws time (.calling e o) = (time, .ended e o) :: timetable reporter limit time ws := by
  simp [Drain.due, ho]

/-- Where no call breaks down, the calls for more entries follow the calls for the first ones. -/
theorem timetable_append {calls : List Entry} (h : ∀ e ∈ calls, (reporter e).panics limit = false) (start : Nat)
    (rest : List Entry) :
    timetable reporter limit start (calls ++ rest) =
      timetable reporter limit start calls ++ timetable reporter limit (start + lasting reporter limit calls) rest := by
  induction calls generalizing start with
  | nil => simp [timetable, lasting]
  | cons e calls ih =>
    obtain ⟨he, hcalls⟩ := List.forall_mem_cons.1 h
    have ho : ((reporter e).under limit).2 ≠ .brokeDown := by simp [Call.under_brokeDown_iff, he]
    have hlast : start + ((reporter e).under limit).1 + lasting reporter limit calls =
        start + lasting reporter limit (e :: calls) := by
      simp only [lasting, List.map_cons, List.sum_cons]
      omega
    rw [List.cons_append, timetable_cons, timetable_cons, due_of_not_broke _ _ _ ho, due_of_not_broke _ _ _ ho, ih hcalls,
      hlast]
    rfl

/-- Where no call breaks down, every entry has its call, and all calls are over when their times have passed. -/
theorem timetable_calls {calls : List Entry} (h : ∀ e ∈ calls, (reporter e).panics limit = false) (start : Nat) :
    handedIn ((timetable reporter limit start calls).map (·.2)) = calls ∧
      ∀ n ∈ timetable reporter limit start calls, n.1 ≤ start + lasting reporter limit calls := by
  induction calls generalizing start with
  | nil => simp [timetable, handedIn]
  | cons e calls ih =>
    obtain ⟨he, hcalls⟩ := List.forall_mem_cons.1 h
    have ho : ((reporter e).under limit).2 ≠ .brokeDown := by simp [Call.under_brokeDown_iff, he]
    obtain ⟨hhanded, htimes⟩ := ih hcalls (start + ((reporter e).under limit).1)
    rw [timetable_cons, due_of_not_broke _ _ _ ho]
    refine ⟨congrArg (e :: ·) hhanded, ?_⟩
    have hlast : lasting reporter limit (e :: calls) = ((reporter e).under limit).1 + lasting reporter limit calls := by
      simp [lasting]
    simp only [List.forall_mem_cons, hlast]
    refine ⟨by omega, by omega, fun n hn => ?_⟩
    have hle := htimes n hn
    omega

/-- Where no call breaks down, every call is counted as it ends. -/
theorem timetable_counts {calls : List Entry} (h : ∀ e ∈ calls, (reporter e).panics limit = false) (start : Nat) (n : Counters) :
    ((timetable reporter limit start calls).map (·.2)).foldl Note.onCounters n =
      { n with
        started := n.started + calls.length
        succeeded := n.succeeded + calls.countP fun e => (reporter e).succeeds limit
        failed := n.failed + calls.countP fun e => (reporter e).fails limit } := by
  induction calls generalizing start n with
  | nil => rfl
  | cons e calls ih =>
    obtain ⟨he, hcalls⟩ := List.forall_mem_cons.1 h
    have ho : ((reporter e).under limit).2 ≠ .brokeDown := by simp [Call.under_brokeDown_iff, he]
    rw [timetable_cons, due_of_not_broke _ _ _ ho, List.map_cons, List.map_cons, List.foldl_cons, List.foldl_cons,
      Call.under_outcome, ih hcalls]
    simp [Note.onCounters, List.countP_cons, Bool.toNat, Bool.cond_eq_ite, Nat.add_assoc, Nat.add_comm (ite _ _ _),
      Nat.add_comm 1]

/-- A call that breaks down is the last one. -/
theorem timetable_of_panics {e : Entry} (h : (reporter e).panics limit = true) (start : Nat) (rest : List Entry) :
    timetable reporter limit start (e :: rest) =
      [(start, .started e), (start + lasting reporter limit [e], .ended e .brokeDown)] := by
  rw [timetable_cons, Call.under_brokeDown_iff.2 h, due_of_broke]
  simp [lasting]

/-! ## Turns of a drain -/

/-- what a turn at some time leaves to be done: nothing, or what follows from the end of the call that the drain waits for -/
inductive DrainTurn.Leaves (reporter : Reporter) (limit : Nat) (now : Nat) (t : DrainTurn) : List (Nat × Note) → Prop where
  | nothing (h : t.next = none) (hd : t.queue.dispatching = false) : Leaves reporter limit now t []
  | call {time : Nat} {e : Entry} {o : Outcome} (h : t.next = some (time, .calling e o)) (ht : 0 < time)
      (hd : t.queue.dispatching = true) :
      Leaves reporter limit now t (Drain.due reporter limit t.queue.stack.entries (now + time) (.calling e o))

/-- a turn of a drain at some time does the first part of what is due, hands over the first of the entries that wait, and
leaves the rest to be done -/
structure DrainTurn.Does (reporter : Reporter) (limit : Nat) (ws : List Entry) (now : Nat) (t : DrainTurn)
    (due later : List (Nat × Note)) : Prop where
  notes : due = t.notes.map (now, ·) ++ later
  handed : ws = handedIn t.notes ++ t.queue.stack.entries
  leaves : t.Leaves reporter limit now later

/-- A drain that is about to take an entry goes by the timetable of all that wait. -/
theorem Drains.does {q : Queue} {t : DrainTurn} (h : Drains reporter limit q t) (hs : q.sections = 0)
    (hd : q.dispatching = true) (now : Nat) :
    ∃ later, t.Does reporter limit q.stack.entries now (timetable reporter limit now q.stack.entries) later := by
  induction h with
  | held q hpos => omega
  | emptied q _ hq => exact ⟨[], by simp [hq, timetable], by simp [handedIn], .nothing rfl rfl⟩
  | broke q e rest _ hq hc =>
    refine ⟨[], ?_, by simp [hq, handedIn, Queue.handOver], .nothing rfl rfl⟩
    rw [hq, timetable_cons, hc, due_of_broke]
    rfl
  | waits q e rest time o _ hq hc ht =>
    refine ⟨_, ?_, by simp [hq, handedIn, Queue.handOver], .call rfl (Nat.pos_of_ne_zero ht) hd⟩
    rw [hq, timetable_cons, hc]
    rfl
  | goesOn q e rest o t _ hq hc ho h ih =>
    obtain ⟨later, hnotes, hhanded, hleaves⟩ := ih ((sections_finish _ _).trans hs) ((dispatching_finish ho).trans hd)
    rw [Queue.stack_finish] at hnotes hhanded
    refine ⟨later, ?_, ?_, ?_⟩
    · rw [hq, timetable_cons, hc, due_of_not_broke _ _ _ ho]
      exact congrArg (fun ns => (now, Note.started e) :: (now, Note.ended e o) :: ns) hnotes
    · rw [hq]
      exact congrArg (e :: ·) hhanded
    · cases hleaves with
      | nothing hn hd => exact .nothing hn hd
      | call hn ht hd => exact .call hn ht hd

/-- **A turn does what is due now**, and leaves the rest. -/
theorem turn_due (reporter : Reporter) (limit : Nat) {q : Queue} (hs : q.sections = 0) (hd : q.dispatching = true)
    (now : Nat) (d : Drain) :
    ∃ later, (q.turn reporter limit d).Does reporter limit q.stack.entries now
      (d.due reporter limit q.stack.entries now) later := by
  rcases turn_cases reporter limit q d with ⟨rfl, h⟩ | ⟨e, rfl, h⟩ | ⟨e, o, t, rfl, ho, ht, h⟩
  · exact h.does hs hd now
  · rw [h]
    exact ⟨[], rfl, rfl, .nothing rfl rfl⟩
  · obtain ⟨later, hnotes, hhanded, hleaves⟩ :=
      ht.does ((sections_finish _ _).trans hs) ((dispatching_finish ho).trans hd) now
    rw [Queue.stack_finish] at hnotes hhanded
    rw [h]
    refine ⟨later, ?_, hhanded, ?_⟩
    · rw [due_of_not_broke _ _ _ ho, hnotes]
      rfl
    · cases hleaves with
      | nothing hn hd => exact .nothing hn hd
      | call hn ht hd => exact .call hn ht hd

namespace Machine

/-- what happened so far and when, the oldest first -/
def timeline (m : Machine) : List (Nat × Note) := m.journal.reverse

theorem timeline_record (m : Machine) (notes : List Note) :
    (m.record notes).timeline = m.timeline ++ notes.map (m.agenda.now, ·) := by
  simp [timeline, record]

/-- A turn neither makes a task ready nor touches the clock. -/
theorem loop_steady (reporter : Reporter) (limit : Nat) : (loop reporter limit).Steady where
  agenda_withAgenda _ _ := rfl
  ready_turn m d := by
    simp only [loop, turn]
    split <;> rfl
  now_turn m d := by
    simp only [loop, turn]
    split <;> rfl
  turns_eq _ := rfl

/-! ## Machines on their way -/

/-- what a machine has still to do: nothing, once its drain has ended; what is due now, if the drain is ready; or what is due
when the call ends that the drain waits for -/
inductive Upcoming (reporter : Reporter) (limit : Nat) (m : Machine) : List (Nat × Note) → Prop where
  | idle (hr : m.agenda.ready = []) (hs : m.agenda.asleep = []) (hd : m.queue.dispatching = false) :
      Upcoming reporter limit m []
  | ready {d : Drain} (hr : m.agenda.ready = [d]) (hs : m.agenda.asleep = []) (hd : m.queue.dispatching = true) :
      Upcoming reporter limit m (d.due reporter limit m.queue.stack.entries m.agenda.now)
  | calling {e : Entry} {o : Outcome} {time : Nat} (hr : m.agenda.ready = [])
      (hs : m.agenda.asleep = [⟨some time, .calling e o⟩]) (hlt : m.agenda.now < time) (hd : m.queue.dispatching = true) :
      Upcoming reporter limit m (Drain.due reporter limit m.queue.stack.entries time (.calling e o))

/-- the machine has done the first part of a timetable since it was `m₁`, and has the second part still to do -/
structure OnTime (reporter : Reporter) (limit : Nat) (m₁ : Machine) (done later : List (Nat × Note)) (m : Machine) : Prop where
  timeline : m.timeline = m₁.timeline ++ done
  past : ∀ n ∈ done, n.1 ≤ m.agenda.now
  upcoming : m.Upcoming reporter limit later
  handed : m₁.queue.stack.entries = handedIn (done.map (·.2)) ++ m.queue.stack.entries
  counters : m.queue.counters = (done.map (·.2)).foldl Note.onCounters m₁.queue.counters
  sections : m.queue.sections = 0

variable {m₁ m : Machine} {done later : List (Nat × Note)}

theorem turn_of_ready {d : Drain} (hr : m.agenda.ready = [d]) :
    (loop reporter limit).beat m .turn = turn reporter limit { m with agenda := { m.agenda with ready := [] } } d := by
  simp [Loop.beat, Loop.next?, loop, hr]

theorem turn_of_quiet (hr : m.agenda.ready = []) : (loop reporter limit).beat m .turn = m := by
  simp [Loop.beat, Loop.next?, loop, hr]

/-- A turn does what is due now. -/
theorem OnTime.turn (h : OnTime reporter limit m₁ done later m) :
    ∃ ns later', later = ns ++ later' ∧ OnTime reporter limit m₁ (done ++ ns) later' ((loop reporter limit).beat m .turn) := by
  obtain ⟨htimeline, hpast, hupcoming, hhanded, hcounters, hsections⟩ := h
  cases hupcoming with
  | idle hr hs hd =>
    refine ⟨[], [], rfl, ?_⟩
    rw [turn_of_quiet hr, List.append_nil]
    exact ⟨htimeline, hpast, .idle hr hs hd, hhanded, hcounters, hsections⟩
  | calling hr hs hlt hd =>
    refine ⟨[], _, rfl, ?_⟩
    rw [turn_of_quiet hr, List.append_nil]
    exact ⟨htimeline, hpast, .calling hr hs hlt hd, hhanded, hcounters, hsections⟩
  | @ready d hr hs hd =>
    obtain ⟨later', hnotes, hhanded', hleaves⟩ := turn_due reporter limit hsections hd m.agenda.now d
    set t := m.queue.turn reporter limit d
    refine ⟨_, later', hnotes, ?_⟩
    have htold : (m₁.timeline ++ done) ++ t.notes.map (m.agenda.now, ·) =
        m₁.timeline ++ (done ++ t.notes.map (m.agenda.now, ·)) := List.append_assoc ..
    have hnow : ∀ n ∈ done ++ t.notes.map (m.agenda.now, ·), n.1 ≤ m.agenda.now := by
      intro n hn
      rcases List.mem_append.1 hn with hn | hn
      · exact hpast n hn
      · obtain ⟨note, -, rfl⟩ := List.mem_map.1 hn
        exact le_rfl
    have hall : m₁.queue.stack.entries =
        handedIn ((done ++ t.notes.map (m.agenda.now, ·)).map (·.2)) ++ t.queue.stack.entries := by
      rw [hhanded, hhanded', List.map_append, handedIn_append, List.append_assoc, List.map_map]
      simp [Function.comp_def]
    have hcounted : t.queue.counters =
        ((done ++ t.notes.map (m.agenda.now, ·)).map (·.2)).foldl Note.onCounters m₁.queue.counters := by
      have hturn : t.queue.counters = t.notes.foldl Note.onCounters m.queue.counters := turn_counters m.queue d
      rw [hturn, hcounters, List.map_append, List.foldl_append, List.map_map]
      simp [Function.comp_def]
    have hclosed : t.queue.sections = 0 := (turn_frame _ d).1.trans hsections
    rw [turn_of_ready hr, Machine.turn]
    cases hleaves with
    | nothing hn hd =>
      simp only [t] at hn
      simp only [hn]
      refine ⟨?_, hnow, .idle rfl hs hd, hall, hcounted, hclosed⟩
      rw [timeline_record, ← htold, ← htimeline]
      rfl
    | @call time e o hn ht hd =>
      simp only [t] at hn
      simp only [hn]
      have hlt : m.agenda.now < m.agenda.now + time := by omega
      refine ⟨?_, hnow, .calling rfl ?_ hlt hd, hall, hcounted, hclosed⟩
      · have hrecord := timeline_record { m with queue := t.queue, agenda := { m.agenda with ready := [] } } t.notes
        exact hrecord.trans (by rw [← htold, ← htimeline]; rfl)
      · simp [Agenda.sleepUntil, record, hs]

/-- The clock that does not go past the end of the call leaves everything as it is, but for the drain that it wakes. -/
theorem OnTime.moveTo (h : OnTime reporter limit m₁ done later m) (hq : m.agenda.isQuiet = true) {time : Nat}
    (hle : m.agenda.now ≤ time) (hdue : ∀ d, m.agenda.nextDue? = some d → time ≤ d) :
    OnTime reporter limit m₁ done later ((loop reporter limit).moveTo m time) := by
  obtain ⟨htimeline, hpast, hupcoming, hhanded, hcounters, hsections⟩ := h
  have hpast' : ∀ n ∈ done, n.1 ≤ time := fun n hn => (hpast n hn).trans hle
  refine ⟨htimeline, hpast', ?_, hhanded, hcounters, hsections⟩
  cases hupcoming with
  | idle hr hs hd =>
    exact .idle (by simp [Loop.moveTo, loop, Agenda.moveTo, Agenda.wakeIf, hr, hs])
      (by simp [Loop.moveTo, loop, Agenda.moveTo, Agenda.wakeIf, hs]) hd
  | ready hr hs hd => simp [Agenda.isQuiet, hr] at hq
  | @calling e o due hr hs hlt hd =>
    have htime : time ≤ due := hdue due (by simp [Agenda.nextDue?, hs, hlt])
    by_cases heq : time = due
    · subst heq
      exact .ready (by simp [Loop.moveTo, loop, Agenda.moveTo, Agenda.wakeIf, Agenda.isDue, hr, hs])
        (by simp [Loop.moveTo, loop, Agenda.moveTo, Agenda.wakeIf, Agenda.isDue, hs]) hd
    · have hnot : ¬ due ≤ time := by omega
      exact .calling (by simp [Loop.moveTo, loop, Agenda.moveTo, Agenda.wakeIf, Agenda.isDue, hr, hs, hnot])
        (by simp [Loop.moveTo, loop, Agenda.moveTo, Agenda.wakeIf, Agenda.isDue, hs, hnot]) (Nat.not_le.1 hnot) hd

theorem OnTime.beat (h : OnTime reporter limit m₁ done later m) (b : Beat) :
    ∃ ns later', later = ns ++ later' ∧
      OnTime reporter limit m₁ (done ++ ns) later' ((loop reporter limit).punctualBeat m b) := by
  cases b with
  | turn => exact h.turn
  | moveTo time =>
    refine ⟨[], later, rfl, ?_⟩
    rw [List.append_nil, Loop.punctualBeat]
    split
    · next hdue =>
      rw [Loop.orderlyBeat]
      split
      · next hgo => exact h.moveTo hgo.1 hgo.2 fun d hd => by simpa [loop, hd] using hdue
      · exact h
    · exact h

/-- Punctual beats do one part of the timetable after the other. -/
theorem OnTime.beats (h : OnTime reporter limit m₁ done later m) (bs : List Beat) :
    ∃ ns later', later = ns ++ later' ∧
      OnTime reporter limit m₁ (done ++ ns) later' ((loop reporter limit).punctualBeats m bs) := by
  induction bs generalizing m done later with
  | nil => exact ⟨[], later, rfl, by simpa [Loop.punctualBeats] using h⟩
  | cons b bs ih =>
    obtain ⟨ns, later₁, rfl, h₁⟩ := h.beat b
    obtain ⟨ns', later₂, rfl, h₂⟩ := ih h₁
    exact ⟨ns ++ ns', later₂, (List.append_assoc ..).symm, List.append_assoc done ns ns' ▸ h₂⟩

theorem le_of_mem_timetable {start : Nat} {es : List Entry} {n : Nat × Note} (h : n ∈ timetable reporter limit start es) :
    start ≤ n.1 := by
  induction es generalizing start with
  | nil => cases h
  | cons e rest ih =>
    rw [timetable_cons, List.mem_cons, Drain.due, List.mem_cons] at h
    rcases h with rfl | rfl | h
    · exact le_rfl
    · exact Nat.le_add_right _ _
    · split at h
      · cases h
      · have hle := ih h
        omega

/-- When no task is ready, the part that is done is what was due by now, and the drain is idle if that is all. -/
theorem OnTime.quiet (h : OnTime reporter limit m₁ done later m) (hq : m.agenda.isQuiet = true) :
    done = (done ++ later).filter (·.1 ≤ m.agenda.now) ∧ (m.queue.dispatching = true ↔ done ≠ done ++ later) := by
  have hdone : done.filter (·.1 ≤ m.agenda.now) = done :=
    List.filter_eq_self.2 fun n hn => by simpa using h.past n hn
  rw [List.filter_append, hdone]
  cases h.upcoming with
  | idle hr hs hd => simp [hd]
  | ready hr hs hd => simp [Agenda.isQuiet, hr] at hq
  | @calling e o time hr hs hlt hd =>
    have hlater : (Drain.due reporter limit m.queue.stack.entries time (.calling e o)).filter (·.1 ≤ m.agenda.now) = [] := by
      refine List.filter_eq_nil_iff.2 fun n hn => ?_
      have hle : time ≤ n.1 := by
        rw [Drain.due, List.mem_cons] at hn
        rcases hn with rfl | hn
        · exact le_rfl
        · split at hn
          · cases hn
          · exact le_of_mem_timetable hn
      simpa using hlt.trans_le hle
    rw [hlater]
    simp [hd, Drain.due]

/-! ## One section -/

/-- one section is open, and since it was opened, on an idle and empty queue, nothing happened but that these were queued -/
structure Held (before : Machine) (es : List Entry) (m : Machine) : Prop where
  history : m.history = before.history ++ es.map .queued
  entries : m.queue.stack.entries = es.reverse
  dispatching : m.queue.dispatching = false
  sections : m.queue.sections = 1
  ready : m.agenda.ready = []
  asleep : m.agenda.asleep = []
  guards : m.guards = before.guards ++ [true]

theorem Held.act {before : Machine} {es : List Entry} (h : Held before es m) {a : Act} (ha : a.isCommand = true → a.ad?.isSome) :
    ∃ es', es'.map (·.ad) = a.ad?.toList ∧ Held before (es ++ es') (m.act reporter limit a) := by
  obtain ⟨hhistory, hentries, hd, hsections, hr, hs, hguards⟩ := h
  cases a with
  | enqueue ad =>
    have hclaim : (m.queue.withAd ad).claim = (m.queue.withAd ad, false) := by
      simp [Queue.claim, Queue.wantsDrain, Queue.withAd, hsections]
    have hact : m.enqueue ad = { m with queue := m.queue.withAd ad }.record [.queued (m.queue.entryOf ad)] :=
      congrArg (fun q => (m.adopt q).record [.queued (m.queue.entryOf ad)]) hclaim
    refine ⟨[m.queue.entryOf ad], rfl, ?_⟩
    simp only [Machine.act, hact]
    refine ⟨?_, ?_, hd, hsections, hr, hs, hguards⟩
    · rw [history_record, List.map_append, ← List.append_assoc, ← hhistory]
      rfl
    · simpa [record, Queue.withAd, Stack.push] using hentries
  | openSection => simp [Act.isCommand, Act.ad?] at ha
  | closeSection i => simp [Act.isCommand, Act.ad?] at ha
  | beat b =>
    refine ⟨[], rfl, ?_⟩
    rw [List.append_nil]
    cases b with
    | turn =>
      have hsame : m.act reporter limit (.beat .turn) = m := turn_of_quiet hr
      rw [hsame]
      exact ⟨hhistory, hentries, hd, hsections, hr, hs, hguards⟩
    | moveTo time =>
      have hagenda : (m.act reporter limit (.beat (.moveTo time))).agenda = ⟨time, [], []⟩ := by
        simp [Machine.act, Loop.beat, Loop.moveTo, loop, Agenda.moveTo, Agenda.wakeIf, hr, hs]
      exact ⟨hhistory, hentries, hd, hsections, congrArg Agenda.ready hagenda, congrArg Agenda.asleep hagenda, hguards⟩

/-- While a section is open in which only ads are queued, they wait. -/
theorem Held.acts {before : Machine} {es : List Entry} (h : Held before es m) {mid : List Act}
    (hmid : ∀ a ∈ mid, a.isCommand = true → a.ad?.isSome) :
    ∃ es', es'.map (·.ad) = adsIn mid ∧ Held before (es ++ es') (mid.foldl (Machine.act reporter limit) m) := by
  induction mid generalizing m es with
  | nil => exact ⟨[], rfl, by simpa using h⟩
  | cons a mid ih =>
    obtain ⟨ha, hmid⟩ := List.forall_mem_cons.1 hmid
    obtain ⟨es₁, hes₁, h₁⟩ : ∃ es₁, es₁.map (·.ad) = a.ad?.toList ∧ Held before (es ++ es₁) (m.act reporter limit a) := h.act ha
    obtain ⟨es₂, hes₂, h₂⟩ := ih h₁ hmid
    refine ⟨es₁ ++ es₂, ?_, List.append_assoc es es₁ es₂ ▸ h₂⟩
    rw [List.map_append, hes₁, hes₂, adsIn, adsIn, List.filterMap_cons]
    cases a.ad? <;> rfl

theorem held_openSection (h : Inv reporter limit m) (hd : m.queue.dispatching = false) (hp : m.queue.pending = 0)
    (hg : true ∉ m.guards) : Held m [] m.openSection := by
  have htasks : m.agenda.ready = [] ∧ m.agenda.asleep = [] := by
    rcases h.flagged with ⟨ht, -⟩ | ⟨d, -, hd', -⟩
    · simpa [drainTasks, Agenda.tasks] using ht
    · rw [hd] at hd'
      cases hd'
  have hsections : m.queue.sections = 0 := h.sections.trans (List.count_eq_zero.2 hg)
  exact ⟨by simp [history, openSection], List.length_eq_zero_iff.1 hp, hd, by simp [openSection, Queue.openSection, hsections],
    htasks.1, htasks.2, rfl⟩

/-- Closing the section starts the timetable of all that waits in it. -/
theorem Held.close (reporter : Reporter) (limit : Nat) {before : Machine} {es : List Entry} (h : Held before es m) :
    let m₁ := m.closeSection before.guards.length
    m₁.history = before.history ++ es.map .queued ∧ m₁.queue.stack.entries = es.reverse ∧
      OnTime reporter limit m₁ [] (timetable reporter limit m₁.agenda.now es.reverse) m₁ := by
  intro m₁
  obtain ⟨hhistory, hentries, hd, hsections, hr, hs, hguards⟩ := h
  have hguard : m.guards[before.guards.length]? = some true := by simp [hguards]
  have hm₁ : m₁ = { m with guards := m.guards.set before.guards.length false }.adopt m.queue.closeSection := if_pos hguard
  have hstack : m₁.queue.stack = m.queue.stack := by
    rw [hm₁]
    exact stack_claim _
  have hclosed : m₁.queue.sections = 0 := by
    rw [hm₁]
    exact (sections_claim _).trans (by simp [hsections])
  refine ⟨by rw [hm₁]; exact hhistory, by rw [hstack, hentries], by simp, by simp, ?_, rfl, rfl, hclosed⟩
  by_cases hes : es = []
  · have hclaim : m.queue.closeSection = ({ m.queue with sections := m.queue.sections - 1 }, false) := by
      simp [Queue.closeSection, Queue.claim, Queue.wantsDrain, Stack.isEmpty, hentries, hes]
    subst hes
    rw [hm₁, hclaim]
    exact .idle hr hs hd
  · have hclaim : m.queue.closeSection = ({ m.queue with sections := m.queue.sections - 1, dispatching := true }, true) := by
      simp [Queue.closeSection, Queue.claim, Queue.wantsDrain, Stack.isEmpty, hentries, hes, hsections, hd]
    rw [← hentries, ← congrArg Stack.entries hstack, hm₁, hclaim]
    exact .ready (d := .start) (by simp [adopt, Agenda.spawn, hr]) hs rfl

/-- Letting tasks run and time pass is punctual beats and leaves no task ready. -/
theorem passes_punctual {ops : List Op} (hne : ops ≠ []) (hops : ∀ o ∈ ops, o.act? = none) (m : Machine) :
    ∃ bs, ops.foldl (step reporter limit) m = (loop reporter limit).punctualBeats m bs ∧
      (ops.foldl (step reporter limit) m).agenda.isQuiet = true := by
  have hsettles := (loop_steady reporter limit).settles
  have hstep : ∀ (m : Machine) (o : Op), o.act? = none → ∃ bs,
      m.step reporter limit o = (loop reporter limit).punctualBeats m bs ∧
        (m.step reporter limit o).agenda.isQuiet = true := by
    intro m o ho
    cases o with
    | enqueue ad => cases ho
    | openSection => cases ho
    | closeSection i => cases ho
    | settle =>
      obtain ⟨hquiet, -, bs, hbs⟩ := hsettles.settle_punctual m
      exact ⟨bs, hbs, List.isEmpty_iff.2 hquiet⟩
    | advance ms =>
      obtain ⟨hquiet, -, bs, hbs⟩ := hsettles.advance_punctual m ms
      exact ⟨bs, hbs, List.isEmpty_iff.2 hquiet⟩
  induction ops using List.reverseRecOn with
  | nil => exact absurd rfl hne
  | append_singleton ops o ih =>
    rw [List.foldl_append, List.foldl_cons, List.foldl_nil]
    obtain ⟨hops, ho⟩ := List.forall_mem_append.1 hops
    obtain ⟨bs, hbs, hquiet⟩ := hstep (ops.foldl (step reporter limit) m) o (ho o (List.mem_singleton_self o))
    by_cases hnil : ops = []
    · subst hnil
      exact ⟨bs, hbs, hquiet⟩
    · obtain ⟨as, has, -⟩ := ih hnil hops
      exact ⟨as ++ bs, by rw [Loop.punctualBeats_append, ← has]; exact hbs, hquiet⟩

/-- the part of the timetable of some entries that is due by now -/
def dueBy (reporter : Reporter) (limit : Nat) (start now : Nat) (es : List Entry) : List (Nat × Note) :=
  (timetable reporter limit start es).filter (·.1 ≤ now)

/-- what has become of entries, the first to be called first, that were all that waited in the machine `m₁`: what is due by now
has happened, and nothing else; who is not called yet waits; and the drain is idle once the timetable has come to its end. That is
after the first call that breaks down, with all behind it still waiting; or else after all calls, with every entry counted as
handed over, and as succeeded or failed -/
structure Reported (reporter : Reporter) (limit : Nat) (m₁ : Machine) (es : List Entry) (m : Machine) : Prop where
  timeline : m.timeline = m₁.timeline ++ dueBy reporter limit m₁.agenda.now m.agenda.now es
  waiting : es = handedIn ((dueBy reporter limit m₁.agenda.now m.agenda.now es).map (·.2)) ++ m.queue.stack.entries
  counters : m.queue.counters =
    ((dueBy reporter limit m₁.agenda.now m.agenda.now es).map (·.2)).foldl Note.onCounters m₁.queue.counters
  busy : m.queue.dispatching = true ↔
    dueBy reporter limit m₁.agenda.now m.agenda.now es ≠ timetable reporter limit m₁.agenda.now es
  broken : ∀ calls e rest, es = calls ++ e :: rest → (∀ c ∈ calls, (reporter c).panics limit = false) →
    (reporter e).panics limit = true → m₁.agenda.now + lasting reporter limit (calls ++ [e]) ≤ m.agenda.now →
    m.queue.dispatching = false ∧ m.queue.stack.entries = rest
  finished : (∀ e ∈ es, (reporter e).panics limit = false) → m₁.agenda.now + lasting reporter limit es ≤ m.agenda.now →
    m.queue.dispatching = false ∧ m.queue.pending = 0 ∧
      m.queue.counters = { m₁.queue.counters with
        started := m₁.queue.counters.started + es.length
        succeeded := m₁.queue.counters.succeeded + es.countP fun e => (reporter e).succeeds limit
        failed := m₁.queue.counters.failed + es.countP fun e => (reporter e).fails limit } ∧
      es.length = (es.countP fun e => (reporter e).succeeds limit) + es.countP fun e => (reporter e).fails limit

/-- What is done when no task is ready is what is due by then. -/
theorem OnTime.dueBy_eq {es : List Entry} (h : OnTime reporter limit m₁ done later m)
    (htimes : timetable reporter limit m₁.agenda.now es = done ++ later) (hq : m.agenda.isQuiet = true) :
    dueBy reporter limit m₁.agenda.now m.agenda.now es = done := by
  rw [dueBy, htimes, ← (h.quiet hq).1]

/-- A timetable that is over by now is all done, and the drain is idle. -/
theorem OnTime.over {es : List Entry} (h : OnTime reporter limit m₁ done later m)
    (htimes : timetable reporter limit m₁.agenda.now es = done ++ later) (hq : m.agenda.isQuiet = true)
    (hle : ∀ n ∈ timetable reporter limit m₁.agenda.now es, n.1 ≤ m.agenda.now) :
    done = timetable reporter limit m₁.agenda.now es ∧ m.queue.dispatching = false := by
  have hall : done = done ++ later := by
    rw [← htimes, ← h.dueBy_eq htimes hq, dueBy]
    exact List.filter_eq_self.2 fun n hn => by simpa using hle n hn
  refine ⟨hall.trans htimes.symm, ?_⟩
  rw [← Bool.not_eq_true, (h.quiet hq).2]
  exact fun hne => hne hall

theorem OnTime.reported {es : List Entry} (hes : m₁.queue.stack.entries = es)
    (h : OnTime reporter limit m₁ done later m) (htimes : timetable reporter limit m₁.agenda.now es = done ++ later)
    (hq : m.agenda.isQuiet = true) : Reported reporter limit m₁ es m := by
  have hdue := h.dueBy_eq htimes hq
  refine ⟨by rw [hdue]; exact h.timeline, by rw [hdue, ← hes]; exact h.handed, by rw [hdue]; exact h.counters,
    by rw [hdue, htimes]; exact (h.quiet hq).2, ?_, ?_⟩
  · intro calls e rest hsplit hcalls he htime
    obtain ⟨hcalled, htimes'⟩ := timetable_calls hcalls m₁.agenda.now
    have hlast : lasting reporter limit (calls ++ [e]) = lasting reporter limit calls + lasting reporter limit [e] := by
      simp [lasting]
    have hcourse := timetable_append hcalls m₁.agenda.now (e :: rest)
    rw [timetable_of_panics he, ← hsplit] at hcourse
    obtain ⟨hdone, hidle⟩ := h.over htimes hq fun n hn => by
      rw [hcourse] at hn
      rcases List.mem_append.1 hn with hn | hn
      · have hle := htimes' n hn
        omega
      · simp only [List.mem_cons, List.not_mem_nil, or_false] at hn
        rcases hn with rfl | rfl <;> omega
    refine ⟨hidle, ?_⟩
    have hhanded := h.handed
    rw [hes, hdone, hcourse, List.map_append, handedIn_append, hcalled, hsplit, List.append_assoc] at hhanded
    exact (List.cons.inj (List.append_cancel_left hhanded)).2.symm
  · intro hcalls htime
    obtain ⟨hcalled, htimes'⟩ := timetable_calls hcalls m₁.agenda.now
    obtain ⟨hdone, hidle⟩ := h.over htimes hq fun n hn => (htimes' n hn).trans htime
    have hhanded := h.handed
    rw [hes, hdone, hcalled] at hhanded
    have hempty : m.queue.stack.entries = [] := List.append_right_eq_self.1 hhanded.symm
    refine ⟨hidle, List.length_eq_zero_iff.2 hempty, ?_, ?_⟩
    · rw [h.counters, hdone, timetable_counts hcalls]
    · have hpanics : (es.countP fun e => (reporter e).panics limit) = 0 :=
        List.countP_eq_zero.2 fun e he => by simp [hcalls e he]
      have hsum := length_eq_counts reporter limit es
      omega

/-- **What is queued in one section is reported on time.** Let a queue be idle and empty, with no section open, whatever was done
before; let a section be opened, ads be queued in it while any time passes, and the section be closed; and let nothing be queued
and no section be opened later. Letting tasks run and time pass is punctual beats. Whenever no task is ready, what has happened
since the section was closed is just the part of the timetable that is due by then: the calls are made in reverse order of
arrival, the first when the section is closed and each other one when the one before it ends. A call that is over within the limit
ends as it does; every other one is cut off at the limit and has failed. After the first call that breaks down the queue is idle
and all behind it go on waiting; if none does, then once the times of all calls have passed the queue is idle and empty and has
counted every entry. -/
theorem reports_on_time (reporter : Reporter) (limit : Nat) :
    (∀ c : Call, c.Ends limit (c.under limit).1 (c.under limit).2) ∧
    (∀ ops, ∃ acts, run reporter limit ops = play reporter limit acts ∧
      acts.filter Act.isCommand = ops.filterMap Op.act?) ∧
    (∀ m ops, ops ≠ [] → (∀ o ∈ ops, o.act? = none) → ∃ bs,
      ops.foldl (step reporter limit) m = (loop reporter limit).punctualBeats m bs ∧
        (ops.foldl (step reporter limit) m).agenda.isQuiet = true) ∧
    ∀ acts mid, let m := play reporter limit acts
      let m₁ := play reporter limit (acts ++ .openSection :: mid ++ [.closeSection m.guards.length])
      m.queue.dispatching = false → m.queue.pending = 0 → true ∉ m.guards →
      (∀ a ∈ mid, a.isCommand = true → a.ad?.isSome) →
      ∃ es : List Entry, es.map (·.ad) = adsIn mid ∧ m₁.history = m.history ++ es.map .queued ∧
        ∀ bs, let m' := (loop reporter limit).punctualBeats m₁ bs
          m'.agenda.isQuiet = true → Reported reporter limit m₁ es.reverse m' := by
  refine ⟨Call.under_ends limit, run_eq_play reporter limit, fun m ops hne hops => passes_punctual hne hops m, ?_⟩
  intro acts mid m m₁ hidle hempty hclosed hmid
  obtain ⟨es, hads, hheld⟩ := (held_openSection (play_inv reporter limit acts) hidle hempty hclosed).acts hmid
  rw [List.nil_append] at hheld
  have hm₁ : m₁ = (mid.foldl (act reporter limit) m.openSection).closeSection m.guards.length := by
    simp only [m₁, play_append, List.foldl_cons, List.foldl_nil]
    rfl
  obtain ⟨hhistory, hentries, hontime⟩ := hheld.close reporter limit
  rw [← hm₁] at hhistory hentries hontime
  refine ⟨es, hads, hhistory, fun bs hquiet => ?_⟩
  obtain ⟨ns, later, htimes, h⟩ := hontime.beats bs
  exact h.reported hentries htimes hquiet

/-- the second call hangs, and the third one breaks down just at the limit -/
def troubled : Reporter := fun e =>
  if e.ad.creativeInstanceId = "c" then ⟨4, .answers true "p"⟩
  else if e.ad.creativeInstanceId = "b" then ⟨0, .hangs⟩
  else ⟨10, .breaksDown⟩

/-- four ads queued in one section while time passes -/
def fourInOneSection : List Act :=
  [.enqueue (sampleRecord "0"), .beat (.moveTo 3), .enqueue (sampleRecord "a"), .enqueue (sampleRecord "b"),
    .enqueue (sampleRecord "c")]

theorem reports_on_time_troubled :
    let m := play troubled 10 []
    let m₁ := play troubled 10 (.openSection :: fourInOneSection ++ [.closeSection 0])
    let m' := (loop troubled 10).advance m₁ 24
    m.queue.dispatching = false ∧ m.queue.pending = 0 ∧ m₁.agenda.now = 3 ∧
      m'.queue.dispatching = false ∧ m'.queue.stack.entries = [⟨0, sampleRecord "0"⟩] ∧
      ∃ es : List Entry, es.map (·.ad) = ["0", "a", "b", "c"].map sampleRecord ∧ Reported troubled 10 m₁ es.reverse m' := by
  have hend : ((loop troubled 10).advance (play troubled 10 (.openSection :: fourInOneSection ++ [.closeSection 0])) 24).queue =
      ⟨⟨[⟨0, sampleRecord "0"⟩]⟩, false, 0, 4, ⟨4, 3, 1, 1⟩⟩ := by cbv
  intro m m₁ m'
  obtain ⟨-, -, hpasses, hreported⟩ := reports_on_time troubled 10
  obtain ⟨es, hads, -, hall⟩ := hreported [] fourInOneSection rfl rfl (by decide) (by decide)
  obtain ⟨bs, hbs, hquiet⟩ := hpasses m₁ [.advance 24] (by simp) (by simp [Op.act?])
  have hm' : m' = (loop troubled 10).punctualBeats m₁ bs := hbs
  refine ⟨rfl, rfl, by cbv, congrArg Queue.dispatching hend, congrArg (fun q => q.stack.entries) hend, es, hads, ?_⟩
  rw [hm']
  exact hall bs (hm' ▸ hquiet)

end Machine

end AdConfirm.Dispatch
