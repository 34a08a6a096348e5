import AdConfirm.Proofs.Pipeline.Listener

/-!
Where the listener is.

There is one listener as long as the bus is followed, and it waits for events only when it has passed all that were published. So
when no task is ready, either the bus is not followed any more, or the listener waits and has missed nothing so far.

- `Attentive`: the listener waits and has passed all events. `ListenerTracked`: it does, or it is in the line, or it has left the
  bus.
- `ListenerTracked.turn`, `ListenerTracked.moveTo`: so it is after a turn, and when the clock is set.
- `ListenerTracked.steps`, `run_listenerTracked`: after every operation, and after every run. `ListenerTracked.attentive`: when no
  task is ready it waits.
-/

namespace AdConfirm.Pipeline

open AdConfirm.Loop (Beat)

/-- the listener waits for an event, and has passed all that were published -/
structure Attentive (p : Pipeline) : Prop where
  readers : p.bus.readers = [some p.bus.sent.length]
  ready : p.lookout.ready = []
  asleep : p.lookout.asleep = [⟨none, ()⟩]

theorem Attentive.still {p q : Pipeline} (h : p.Attentive) (k : Still p q) : q.Attentive :=
  ⟨by rw [k.bus]; exact h.readers, k.ready.trans h.ready, k.asleep.trans h.asleep⟩

/-- where the listener of a bus with this capacity is: in the line, waiting, or not there any more -/
inductive ListenerTracked (capacity : Nat) (p : Pipeline) : Prop
  | ready {n : Nat} (same : p.bus.capacity = capacity) (readers : p.bus.readers = [some n]) (le : n ≤ p.bus.sent.length)
      (ready : p.lookout.ready = [()]) (asleep : p.lookout.asleep = [])
  | waits (same : p.bus.capacity = capacity) (attentive : p.Attentive)
  | left (same : p.bus.capacity = capacity) (readers : p.bus.readers = [none]) (ready : p.lookout.ready = [])
      (asleep : p.lookout.asleep = [])

variable {x : Setup} {p q : Pipeline} {capacity : Nat}

/-- What is published is sent, and wakes the listener. -/
theorem publish_eq {n : Nat} (h : p.bus.readers = [some n]) (e : TabEvent) :
    p.publish? e = some { p with
      bus := { p.bus with sent := p.bus.sent ++ [e] }, agenda := p.agenda.wakeIf fun z => isListen z.task } := by
  simp [publish?, Bus.publish?, Bus.subscribers, h]

theorem lookout_spawn (p : Pipeline) :
    (p.spawn .listen).lookout.ready = p.lookout.ready ++ [()] ∧ (p.spawn .listen).lookout.asleep = p.lookout.asleep := by
  rw [lookout, spawn, Agenda.pick_spawn]
  exact ⟨rfl, rfl⟩

/-- When the listener has passed all events, and might have taken more, it waits. -/
theorem attentive_of_takes {es : List TabEvent} (h : Takes x es p.bus.sent.length p q) (hready : p.lookout.ready = [])
    (hasleep : p.lookout.asleep = []) : Attentive { q with agenda := q.agenda.sleep .listen } := by
  obtain ⟨kready, kasleep⟩ := h.toAdds.lookout
  have hbus := h.bus
  have hlookout : Pipeline.lookout { q with agenda := q.agenda.sleep .listen } =
      { q.lookout with asleep := q.lookout.asleep ++ [⟨none, ()⟩] } := by
    simp [lookout, Agenda.pick, Agenda.sleep, Task.listens?]
  refine ⟨by simp only [hbus], ?_, ?_⟩
  · rw [hlookout]
    exact kready.trans hready
  · rw [hlookout]
    simp only
    rw [kasleep, hasleep, List.nil_append]

namespace ListenerTracked

theorem congr (h : ListenerTracked capacity p) (k : Still p q) : ListenerTracked capacity q := by
  have hbus := k.bus
  cases h with
  | ready same readers le ready asleep =>
    exact .ready (hbus ▸ same) (hbus ▸ readers) (hbus ▸ le) (k.ready.trans ready) (k.asleep.trans asleep)
  | waits same attentive => exact .waits (hbus ▸ same) (attentive.still k)
  | left same readers ready asleep => exact .left (hbus ▸ same) (hbus ▸ readers) (k.ready.trans ready) (k.asleep.trans asleep)

theorem aside (h : ListenerTracked capacity p) (k : Aside p q) : ListenerTracked capacity q := h.congr k.still

/-- A turn of the listener leaves it in the line, or waiting. -/
theorem turn_listen {n : Nat} (hsame : p.bus.capacity = capacity) (hreaders : p.bus.readers = [some n])
    (hle : n ≤ p.bus.sent.length) (hready : p.lookout.ready = []) (hasleep : p.lookout.asleep = []) :
    ListenerTracked capacity (turn x p .listen) := by
  obtain ⟨q, htakes, hturn⟩ := Pipeline.turn_listen (x := x) hreaders
  have hfrom : max n p.bus.oldest ≤ p.bus.sent.length := max_le hle (Nat.sub_le _ _)
  rw [List.length_drop] at htakes hturn
  rw [hturn]
  split_ifs with htook
  · obtain ⟨kready, kasleep⟩ := htakes.toAdds.lookout
    obtain ⟨hspawnready, hspawnasleep⟩ := q.lookout_spawn
    have hbus : (q.spawn .listen).bus = _ := htakes.bus
    refine .ready (by rw [hbus]; exact hsame) (by rw [hbus]) ?_ ?_ ?_
    · rw [hbus]
      simp only
      omega
    · rw [hspawnready, kready, hready, List.nil_append]
    · rw [hspawnasleep, kasleep, hasleep]
  · have hall : max n p.bus.oldest + min (room p.bus n) (p.bus.sent.length - max n p.bus.oldest) = p.bus.sent.length := by
      omega
    have hbus := htakes.bus
    rw [hall] at htakes
    exact .waits (by simp only [hbus]; exact hsame) (attentive_of_takes htakes hready hasleep)

theorem turn (h : ListenerTracked capacity p) : ListenerTracked capacity ((loop x).beat p .turn) := by
  cases hready : p.agenda.ready with
  | nil =>
    have hbeat : (loop x).beat p .turn = p := by simp [Loop.beat, Loop.next?, loop, hready]
    rw [hbeat]
    exact h
  | cons t rest =>
    have hbeat : (loop x).beat p .turn = Pipeline.turn x { p with agenda := { p.agenda with ready := rest } } t := by
      simp [Loop.beat, Loop.next?, loop, hready]
    rw [hbeat]
    cases ht : isListen t with
    | false => exact (h.congr (still_of_taken hready ht)).aside (turn_aside _ ht)
    | true =>
      obtain rfl : t = .listen := by cases t <;> first | rfl | cases ht
      have hlookout : p.lookout.ready = () :: rest.filterMap Task.listens? := by
        simp [lookout, Agenda.pick, hready, Task.listens?]
      cases h with
      | ready same readers le ready asleep =>
        rw [hlookout] at ready
        exact turn_listen same readers le (List.cons.inj ready).2 asleep
      | waits same attentive =>
        have hnone := attentive.ready
        rw [hlookout] at hnone
        cases hnone
      | left same readers ready asleep =>
        rw [hlookout] at ready
        cases ready

/-- The clock wakes tasks that wait for a time, and the listener does not. -/
theorem moveTo (h : ListenerTracked capacity p) (time : Nat) : ListenerTracked capacity ((loop x).moveTo p time) := by
  have hlookout : ((loop x).moveTo p time).lookout = p.lookout.moveTo time := Agenda.pick_moveTo time
  have hstays : (p.lookout.moveTo time).ready = p.lookout.ready ∧ (p.lookout.moveTo time).asleep = p.lookout.asleep := by
    cases h with
    | ready same readers le ready asleep => simp [Agenda.moveTo, Agenda.wakeIf, asleep]
    | waits same attentive => simp [Agenda.moveTo, Agenda.wakeIf, Agenda.isDue, attentive.asleep]
    | left same readers ready asleep => simp [Agenda.moveTo, Agenda.wakeIf, asleep]
  rw [← hlookout] at hstays
  exact h.congr ⟨rfl, hstays.1, hstays.2⟩

theorem beats (h : ListenerTracked capacity p) (bs : List Beat) : ListenerTracked capacity ((loop x).beats p bs) := by
  induction bs generalizing p with
  | nil => exact h
  | cons b bs ih =>
    cases b with
    | turn => exact ih h.turn
    | moveTo time => exact ih (h.moveTo time)

theorem settles (h : ListenerTracked capacity p) : ListenerTracked capacity ((loop x).settle p) := by
  obtain ⟨bs, hbs⟩ := (loop x).settle_beats p
  exact hbs ▸ h.beats bs

theorem publishes (h : ListenerTracked capacity p) (e : TabEvent) : ListenerTracked capacity ((p.publish? e).getD p) := by
  have hlookout : (p.agenda.wakeIf fun z => isListen z.task).pick Task.listens? = p.lookout.wakeIf fun _ => true :=
    Agenda.pick_wakeIf fun z u hz => by
      cases ht : isListen z.task with
      | true => rfl
      | false =>
        rw [listens?_of_not z.task ht] at hz
        cases hz
  -- who was in the line or waited is in the line
  have hwoken : ∀ {n}, p.bus.capacity = capacity → p.bus.readers = [some n] → n ≤ p.bus.sent.length →
      p.lookout.ready ++ p.lookout.asleep.map (·.task) = [()] → ListenerTracked capacity ((p.publish? e).getD p) := by
    intro n same readers le hone
    rw [publish_eq readers e]
    refine .ready same readers (by simpa using Nat.le_succ_of_le le) ?_ ?_
    · exact (congrArg Agenda.ready hlookout).trans (by simpa [Agenda.wakeIf] using hone)
    · exact (congrArg Agenda.asleep hlookout).trans (by simp [Agenda.wakeIf])
  cases h with
  | ready same readers le ready asleep => exact hwoken same readers le (by rw [ready, asleep]; rfl)
  | waits same attentive =>
    exact hwoken same attentive.readers le_rfl (by rw [attentive.ready, attentive.asleep]; rfl)
  | left same readers ready asleep =>
    have hnobody : p.publish? e = none := by simp [publish?, Bus.publish?, Bus.subscribers, readers]
    rw [hnobody]
    exact .left same readers ready asleep

/-- A released fetch wakes nobody but its attempt. -/
theorem releases (h : ListenerTracked capacity p) (tab : String) : ListenerTracked capacity (p.release tab) := by
  unfold release
  simp only
  split
  · exact h.congr ⟨rfl, rfl, rfl⟩
  · next t _ =>
    have hlookout : (p.agenda.wakeIf fun z => isFetch t z.task).pick Task.listens? = p.lookout :=
      Agenda.pick_wakeIf_none fun z u hz => by
        cases hz' : z.task <;> first | rfl | (rw [hz'] at hz; cases hz)
    exact h.congr ⟨rfl, congrArg Agenda.ready hlookout, congrArg Agenda.asleep hlookout⟩

theorem shutsDown (h : ListenerTracked capacity p) : ListenerTracked capacity (Pipeline.shutDown x p).1 := by
  have hready : ((p.agenda.cancel isListen).pick Task.listens?).ready = [] :=
    List.filterMap_eq_nil_iff.2 fun t ht => listens?_of_not t (by simpa using (List.mem_filter.1 ht).2)
  have hasleep : ((p.agenda.cancel isListen).pick Task.listens?).asleep = [] :=
    List.filterMap_eq_nil_iff.2 fun z hz => by
      rw [listens?_of_not z.task (by simpa using (List.mem_filter.1 hz).2), Option.map_none]
  have hleft : (p.bus.unsubscribe listener).1.capacity = capacity ∧ (p.bus.unsubscribe listener).1.readers = [none] := by
    cases h with
    | ready same readers => simp [Bus.unsubscribe, listener, readers, same]
    | waits same attentive => simp [Bus.unsubscribe, listener, attentive.readers, same]
    | left same readers => simp [Bus.unsubscribe, listener, readers, same]
  exact settles (.left hleft.1 hleft.2 hready hasleep)

theorem ingestsNow (h : ListenerTracked capacity p) (tab : String) (url : Url) (trigger : Bool) :
    ListenerTracked capacity (ingestNow x p tab url trigger) := by
  have hbegun := h.aside (begin_aside (x := x) p tab url trigger)
  unfold ingestNow
  generalize begin x p tab url trigger = begun at hbegun
  obtain ⟨q, t, isAdmitted⟩ := begun
  have hproceed := hbegun.aside (proceed_aside (x := x) q t (.begun isAdmitted))
  simp only
  split
  · next r hr =>
    rw [hr] at hproceed
    exact hproceed
  · next r time s hr =>
    rw [hr] at hproceed
    obtain ⟨bs, hbs⟩ := (loop x).passTo_beats (r.agenda.now + time) r r.agenda.now
    have hpassed := hproceed.beats (x := x) bs
    rw [← hbs] at hpassed
    exact hpassed.aside (proceed_aside _ t s)

/-- **After every operation the listener is where it should be.** -/
theorem steps (h : ListenerTracked capacity p) (o : Op) : ListenerTracked capacity (step x p o) := by
  cases o with
  | setPage tab page d => exact h.aside (.of_eq rfl rfl)
  | release tab => exact h.releases tab
  | ingest tab url trigger => exact h.aside (ingest_aside p tab url trigger)
  | ingestNow tab url trigger => exact h.ingestsNow tab url trigger
  | ingestNever tab url trigger => exact h.aside (begin_aside p tab url trigger)
  | request tab id =>
    obtain ⟨isClaimed, hframe⟩ := request_claims x p tab id
    exact h.aside (.of_claim hframe)
  | forget key => exact h.aside (.of_eq rfl rfl)
  | resolve tab id =>
    obtain ⟨isClaimed, hframe⟩ := resolve_claims p tab id
    exact h.aside (.of_claim hframe)
  | reset tab => exact h.aside (.of_frame (p.reset_frame tab))
  | hook => exact h.aside (.of_eq rfl rfl)
  | openSection => exact h.aside (.of_eq rfl rfl)
  | closeSection i =>
    obtain ⟨isClaimed, hframe⟩ := closeSection_claims p i
    exact h.aside (.of_claim hframe)
  | apply s =>
    have hnoted : Aside p (Pipeline.note { p with center := (p.center.apply p.agenda.now s).1 } (.overridden s)) :=
      .of_eq rfl rfl
    refine h.aside ?_
    simp only [step, Pipeline.apply]
    split
    · exact hnoted
    · exact hnoted
    · exact hnoted.spawn rfl
  | clear path => exact h.aside (.of_eq rfl rfl)
  | publish e => exact h.publishes e
  | shutDown => exact h.shutsDown
  | settle => exact h.settles
  | advance ms =>
    obtain ⟨bs, hbs⟩ := (loop x).advance_beats p ms
    have hbeats := h.beats (x := x) bs
    rwa [← hbs] at hbeats

/-- When no task is ready and the bus is followed, the listener waits. -/
theorem attentive (h : ListenerTracked capacity p) (hquiet : p.agenda.isQuiet = true) (hfollowed : 0 < p.bus.subscribers) :
    p.Attentive := by
  cases h with
  | ready same readers le ready asleep =>
    rw [lookout, Agenda.pick, List.isEmpty_iff.1 hquiet] at ready
    cases ready
  | waits same attentive => exact attentive
  | left same readers ready asleep => simp [Bus.subscribers, readers] at hfollowed

theorem capacity_eq (h : ListenerTracked capacity p) : p.bus.capacity = capacity := by
  cases h <;> assumption

end ListenerTracked

/-- **After every run the listener is where it should be.** -/
theorem run_listenerTracked (x : Setup) (c : Policy.Center) (capacity : Nat) (ops : List Op) :
    ListenerTracked (max capacity 1).nextPowerOfTwo (run x (start c (some capacity)) ops) := by
  induction ops using List.reverseRecOn with
  | nil => exact .ready (n := 0) rfl rfl (Nat.zero_le _) rfl rfl
  | append_singleton ops o ih =>
    rw [run, List.foldl_append]
    exact ih.steps o

end AdConfirm.Pipeline
