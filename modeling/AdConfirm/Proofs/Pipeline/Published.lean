import AdConfirm.Proofs.Pipeline.ListenerTask
import AdConfirm.Proofs.Pipeline.Unseen

/-!
Events published on the bus, and the same events called for directly.

Whoever publishes tab events one after the other and then lets all tasks run gets what he would get by doing himself what they ask
for, as far as the bus remembers them. The listener does so in portions, since it takes so many deliveries in a turn and no more,
and the news of missed events is one of them: between two portions every other task that is ready takes its turn. Up to one
portion there is nothing between the events, as there is not when they are called for directly.

- `paced`: events called for directly, in portions.
- `unheard_runTurns`: tasks take their turns as they would without the listener. `settles_first`: a listener that leads the line
  takes events from the bus as they are called for in portions, by induction on the events it has not passed.
- `foldl_publish`: what publishing does.
- `published_as_called`: publishing and settling is calling and settling. `published_past_portion`: not so without portions.
-/

namespace AdConfirm.Pipeline

/-- the call that asks for the same as a tab event -/
def TabEvent.call : TabEvent → Op
  | .loaded tab url trigger => .ingest tab url trigger
  | .navigated tab => .reset tab
  | .closed tab => .reset tab

/-- every task that is ready takes one turn -/
def yielded (x : Setup) (p : Pipeline) : Pipeline := (loop x).runTurns p.agenda.ready.length p

/-- what tab events ask for, called for in their order: so many of them at once, and then in portions of what the listener takes
in a turn, with a turn of every task that is ready before each portion -/
def paced (x : Setup) : Nat → Pipeline → List TabEvent → Pipeline
  | _, p, [] => p
  | 0, p, e :: es => paced x (deliveriesPerTurn - 1) (step x (yielded x p) e.call) es
  | n + 1, p, e :: es => paced x n (step x p e.call) es

variable {x : Setup} {p q : Pipeline} {es : List TabEvent}

theorem step_call (p : Pipeline) (e : TabEvent) : step x p e.call = follow x p e := by
  cases e <;> rfl

theorem run_calls_eq (p : Pipeline) (es : List TabEvent) : run x p (es.map TabEvent.call) = es.foldl (follow x) p := by
  rw [run, List.foldl_map]
  simp only [step_call]

/-! ## Portions -/

theorem paced_of_le {n : Nat} (h : es.length ≤ n) (p : Pipeline) : paced x n p es = es.foldl (follow x) p := by
  induction es generalizing n p with
  | nil => rw [paced, List.foldl_nil]
  | cons e es ih =>
    cases n with
    | zero => cases h
    | succ n => rw [paced, ih (Nat.le_of_succ_le_succ h), step_call, List.foldl_cons]

/-- After the first portion comes the rest. -/
theorem paced_split {n : Nat} (h : n ≤ es.length) (p : Pipeline) :
    paced x n p es = paced x 0 ((es.take n).foldl (follow x) p) (es.drop n) := by
  induction n generalizing es p with
  | zero => rfl
  | succ n ih =>
    cases es with
    | nil => cases h
    | cons e es =>
      rw [paced, ih (Nat.le_of_succ_le_succ h), step_call]
      rfl

/-- A portion begins with a turn of every task that is ready. -/
theorem settle_paced (p : Pipeline) (es : List TabEvent) :
    (loop x).settle (paced x 0 p es) = (loop x).settle (paced x deliveriesPerTurn (yielded x p) es) := by
  cases es with
  | nil => exact ((loop_settles x).settle_runTurns _ p).symm
  | cons e es => rfl

/-! ## Turns without the listener -/

theorem others_ready (h : p.lookout.ready = []) : ∀ t ∈ p.agenda.ready, isListen t = false := by
  intro t ht
  have hlistens : t.listens? = none := List.filterMap_eq_nil_iff.1 h t ht
  cases t <;> first | rfl | cases hlistens

/-- where the listener is not in the line, the line is the same without it -/
theorem unheard_ready (h : p.lookout.ready = []) : p.unheard.agenda.ready = p.agenda.ready := by
  have hsame : p.agenda.ready.filterMap Task.works? = p.agenda.ready.filterMap some :=
    List.filterMap_congr fun t ht => works?_of_not t (others_ready h t ht)
  exact hsame.trans List.filterMap_some

/-- Another task than the listener takes its turn as it would without it. -/
theorem next?_unheard {t : Task} {rest : List Task} (hready : p.agenda.ready = t :: rest) (ht : isListen t = false) :
    ∃ q ts, (loop x).next? p = some q ∧ (loop x).next? p.unheard = some q.unheard ∧ q.agenda.ready = rest ++ ts ∧ Still p q := by
  have hready' : p.unheard.agenda.ready = t :: rest.filterMap Task.works? := by
    have hline : p.unheard.agenda.ready = p.agenda.ready.filterMap Task.works? := rfl
    rw [hline, hready, List.filterMap_cons_some (works?_of_not t ht)]
  have haside := turn_aside (x := x) { p with agenda := { p.agenda with ready := rest } } ht
  obtain ⟨ts, -, hline⟩ := haside.ready
  refine ⟨turn x { p with agenda := { p.agenda with ready := rest } } t, ts, ?_, ?_, hline,
    (still_of_taken hready ht).trans haside.still⟩
  · simp [Loop.next?, loop, hready]
  · rw [unheard_turn _ ht]
    simp only [Loop.next?, loop, hready']
    rfl

/-- **Without the listener in the line, tasks take their turns as they would without it.** -/
theorem unheard_runTurns (h : p.lookout.ready = []) (n : Nat) :
    ((loop x).runTurns n p).unheard = (loop x).runTurns n p.unheard ∧ Still p ((loop x).runTurns n p) := by
  induction n generalizing p with
  | zero => exact ⟨rfl, .refl p⟩
  | succ n ih =>
    cases hready : p.agenda.ready with
    | nil =>
      have hquiet : ((loop x).agenda p).ready = [] := hready
      have hquiet' : ((loop x).agenda p.unheard).ready = [] := (unheard_ready h).trans hready
      rw [(loop x).runTurns_of_quiet _ hquiet, (loop x).runTurns_of_quiet _ hquiet']
      exact ⟨rfl, .refl p⟩
    | cons t rest =>
      have ht : isListen t = false := others_ready h t (hready ▸ List.mem_cons_self)
      obtain ⟨q, ts, hnext, hnext', -, hstill⟩ := next?_unheard (x := x) hready ht
      obtain ⟨hunheard, hstill'⟩ := ih (hstill.ready.trans h)
      simp only [Loop.runTurns, hnext, hnext']
      exact ⟨hunheard, hstill.trans hstill'⟩

theorem unheard_settle (h : p.lookout.ready = []) :
    ((loop x).settle p).unheard = (loop x).settle p.unheard ∧ Still p ((loop x).settle p) := by
  obtain ⟨hunheard, hstill⟩ := unheard_runTurns (x := x) h ((loop x).turns p)
  have hquiet : ((loop x).settle p).agenda.ready = [] := ((loop_settles x).settle_punctual p).1
  have hquiet' : ((loop x).agenda ((loop x).settle p).unheard).ready = [] :=
    (unheard_ready (hstill.ready.trans h)).trans hquiet
  refine ⟨?_, hstill⟩
  calc ((loop x).settle p).unheard
      = (loop x).settle ((loop x).settle p).unheard := ((loop x).runTurns_of_quiet _ hquiet').symm
    _ = (loop x).settle ((loop x).runTurns ((loop x).turns p) p.unheard) := congrArg (loop x).settle hunheard
    _ = (loop x).settle p.unheard := (loop_settles x).settle_runTurns _ _

theorem unheard_yielded (h : p.lookout.ready = []) :
    (yielded x p).unheard = yielded x p.unheard ∧ Still p (yielded x p) := by
  unfold yielded
  rw [unheard_ready h]
  exact unheard_runTurns h p.agenda.ready.length

/-- What tab events ask for is done alike without the listener, also in portions. -/
theorem unheard_paced (h : p.lookout.ready = []) (n : Nat) (es : List TabEvent) :
    (paced x n p es).unheard = paced x n p.unheard es ∧ (paced x n p es).lookout.ready = [] := by
  have hcall {p : Pipeline} (h : p.lookout.ready = []) (e : TabEvent) :
      (step x p e.call).unheard = step x p.unheard e.call ∧ (step x p e.call).lookout.ready = [] := by
    rw [step_call, step_call]
    exact ⟨listening.erase_follow x p e, (follow_aside p e).still.ready.trans h⟩
  induction es generalizing n p with
  | nil =>
    rw [paced, paced]
    exact ⟨rfl, h⟩
  | cons e es ih =>
    cases n with
    | zero =>
      obtain ⟨hyielded, hstill⟩ := unheard_yielded (x := x) h
      obtain ⟨hstep, hready⟩ := hcall (hstill.ready.trans h) e
      rw [paced, paced, ← hyielded, ← hstep]
      exact ih hready _
    | succ n =>
      obtain ⟨hstep, hready⟩ := hcall h e
      rw [paced, paced, ← hstep]
      exact ih hready _

/-! ## The listener in the line -/

/-- Those who are in front of the listener in the line take their turns before it. -/
theorem runTurns_before {before after : List Task} (hbefore : ∀ t ∈ before, isListen t = false)
    (hready : p.agenda.ready = before ++ .listen :: after) :
    ∃ after', ((loop x).runTurns before.length p).agenda.ready = .listen :: after' ∧
      ((loop x).runTurns before.length p).unheard = (loop x).runTurns before.length p.unheard ∧
      Still p ((loop x).runTurns before.length p) := by
  induction before generalizing p after with
  | nil => exact ⟨after, hready, rfl, .refl p⟩
  | cons t before ih =>
    obtain ⟨ht, hbefore⟩ := List.forall_mem_cons.1 hbefore
    obtain ⟨q, ts, hnext, hnext', hline, hstill⟩ := next?_unheard (x := x) hready ht
    have hline' : q.agenda.ready = before ++ .listen :: (after ++ ts) := by
      rw [hline]
      simp
    obtain ⟨after', hfirst, hunheard, hstill'⟩ := ih hbefore hline'
    rw [List.length_cons]
    simp only [Loop.runTurns, hnext, hnext']
    exact ⟨after', hfirst, hunheard, hstill.trans hstill'⟩

theorem unheard_spawn (p : Pipeline) : (p.spawn .listen).unheard = p.unheard := by
  simp [unheard, Erasure.erase, listening, spawn, Agenda.pick_spawn, Task.works?]

theorem unheard_sleep (p : Pipeline) : Pipeline.unheard { p with agenda := p.agenda.sleep .listen } = p.unheard := by
  have hsame : (p.agenda.sleep .listen).pick Task.works? = p.agenda.pick Task.works? := Agenda.pick_sleep rfl
  simp [unheard, Erasure.erase, listening, hsame]

/-- the listener is the first in the line, and has passed so many events -/
structure Foremost (p : Pipeline) (n : Nat) : Prop where
  first : ∃ after, p.agenda.ready = .listen :: after
  ready : p.lookout.ready = [()]
  asleep : p.lookout.asleep = []
  readers : p.bus.readers = [some n]
  le : n ≤ p.bus.sent.length

/-- The first in the line takes its turn. -/
theorem Foremost.settle {n : Nat} (h : p.Foremost n) :
    ∃ p₀, (loop x).settle p = (loop x).settle (turn x p₀ .listen) ∧ p₀.unheard = p.unheard ∧ p₀.bus = p.bus ∧
      p₀.lookout.ready = [] ∧ p₀.lookout.asleep = [] := by
  obtain ⟨after, hready⟩ := h.first
  refine ⟨{ p with agenda := { p.agenda with ready := after } }, ?_, ?_, rfl, ?_, h.asleep⟩
  · have hone : (loop x).runTurns 1 p = turn x { p with agenda := { p.agenda with ready := after } } .listen := by
      simp [Loop.runTurns, Loop.next?, loop, hready]
    rw [← hone, (loop_settles x).settle_runTurns]
  · have hnone : (Task.listen :: after).filterMap Task.works? = after.filterMap Task.works? := List.filterMap_cons_none rfl
    simp [unheard, Erasure.erase, listening, Agenda.pick, hready, hnone]
  · have hline := h.ready
    rw [lookout, Agenda.pick, hready] at hline
    exact (List.cons.inj hline).2

/-- When the listener goes to the end of the line, all the others take a turn before it. -/
theorem settle_spawn {n : Nat} (hline : p.lookout.ready = []) (hasleep : p.lookout.asleep = [])
    (hreaders : p.bus.readers = [some n]) (hle : n ≤ p.bus.sent.length) :
    ∃ q, q.Foremost n ∧ q.bus = p.bus ∧ q.unheard = yielded x p.unheard ∧
      (loop x).settle (p.spawn .listen) = (loop x).settle q := by
  have hline' : (p.spawn .listen).agenda.ready = p.agenda.ready ++ .listen :: [] := rfl
  obtain ⟨after, hfirst, hunheard, hstill⟩ := runTurns_before (x := x) (others_ready hline) hline'
  obtain ⟨hready, hasleep'⟩ := p.lookout_spawn
  have hbus := hstill.bus
  refine ⟨_, ⟨⟨after, hfirst⟩, ?_, ?_, by rw [hbus]; exact hreaders, by rw [hbus]; exact hle⟩, hbus, ?_,
    ((loop_settles x).settle_runTurns _ _).symm⟩
  · rw [hstill.ready, hready, hline, List.nil_append]
  · rw [hstill.asleep, hasleep', hasleep]
  · rw [hunheard, unheard_spawn, yielded, unheard_ready hline]

/-- **The listener takes events from the bus as they are called for in portions**, and waits when it has taken all of them. -/
theorem settles_first {n : Nat} (h : p.Foremost n) (hes : p.bus.sent.drop (max n p.bus.oldest) = es) :
    ((loop x).settle p).unheard = (loop x).settle (paced x (room p.bus n) p.unheard es) ∧ ((loop x).settle p).Attentive := by
  generalize hk : es.length = k
  induction k using Nat.strong_induction_on generalizing p n es with
  | _ k ih =>
    obtain ⟨p₀, hfirst, hunheard, hbus₀, hline₀, hasleep₀⟩ := h.settle (x := x)
    have hturn := turn_listen (x := x) (p := p₀) (by rw [hbus₀]; exact h.readers)
    rw [hbus₀, hes] at hturn
    obtain ⟨q, htakes, hturn⟩ := hturn
    obtain ⟨kready, kasleep⟩ := htakes.toAdds.lookout
    have hlength : es.length = p.bus.sent.length - max n p.bus.oldest := by rw [← hes, List.length_drop]
    have hfrom : max n p.bus.oldest ≤ p.bus.sent.length := max_le h.le (Nat.sub_le _ _)
    have htaken : q.unheard = (es.take (room p.bus n)).foldl (follow x) p.unheard := by rw [htakes.unheard, hunheard]
    rw [hfirst, hturn]
    split_ifs with htook
    · -- the listener has taken its portion, and the others take a turn before the next one
      have hpos : 0 < room p.bus n := by unfold room; split_ifs <;> decide
      have hbus : q.bus = { p.bus with readers := [some (max n p.bus.oldest + room p.bus n)] } := by
        rw [htakes.bus, hbus₀, Nat.min_eq_left htook]
      obtain ⟨r, hforemost, hsame, hyielded, hsettle⟩ := settle_spawn (x := x) (kready.trans hline₀) (kasleep.trans hasleep₀)
        (by rw [hbus]) (by rw [hbus]; simp only; omega)
      have hold : r.bus.oldest ≤ max n p.bus.oldest + room p.bus n := by
        rw [hsame, hbus]
        exact (le_max_right _ _).trans (Nat.le_add_right _ _)
      have hrest : r.bus.sent.drop (max (max n p.bus.oldest + room p.bus n) r.bus.oldest) = es.drop (room p.bus n) := by
        rw [Nat.max_eq_left hold, hsame, hbus, ← hes, List.drop_drop]
      obtain ⟨hrec, hattentive⟩ := ih _ (by rw [List.length_drop]; omega) hforemost hrest rfl
      rw [hsettle]
      refine ⟨?_, hattentive⟩
      calc ((loop x).settle r).unheard
          = (loop x).settle (paced x deliveriesPerTurn (yielded x q.unheard) (es.drop (room p.bus n))) := by
            rw [hrec, hyielded, room, if_neg hold.not_gt]
        _ = (loop x).settle (paced x 0 q.unheard (es.drop (room p.bus n))) := (settle_paced _ _).symm
        _ = (loop x).settle (paced x (room p.bus n) p.unheard es) := by rw [htaken, ← paced_split htook]
    · -- it has taken all, and waits
      have hlt : es.length < room p.bus n := Nat.lt_of_not_le htook
      have hall : max n p.bus.oldest + min (room p.bus n) es.length = p₀.bus.sent.length := by
        rw [hbus₀]
        omega
      have hattentive := attentive_of_takes (hall ▸ htakes) hline₀ hasleep₀
      obtain ⟨hsettle, hstill⟩ := unheard_settle (x := x) hattentive.ready
      refine ⟨?_, hattentive.still hstill⟩
      rw [hsettle, unheard_sleep, htaken, List.take_of_length_le hlt.le, paced_of_le hlt.le]

/-! ## Publishing -/

theorem woken_eq (zs : List (Sleeper Task)) :
    (zs.filter fun z => isListen z.task).map (·.task) =
      (zs.filterMap fun z => z.task.listens?.map (Sleeper.mk z.due)).map fun _ => .listen := by
  induction zs with
  | nil => rfl
  | cons z zs ih =>
    obtain ⟨due, t⟩ := z
    cases t with
    | listen => exact congrArg (Task.listen :: ·) ih
    | _ => exact ih

/-- What is published is sent, and puts the listener into the line if it waits. -/
theorem publish_spec {n : Nat} (hreaders : p.bus.readers = [some n]) (e : TabEvent) :
    (step x p (.publish e)).bus = { p.bus with sent := p.bus.sent ++ [e] } ∧
      (step x p (.publish e)).agenda.ready = p.agenda.ready ++ p.lookout.asleep.map (fun _ => .listen) ∧
      (step x p (.publish e)).lookout.asleep = [] ∧ (step x p (.publish e)).unheard = p.unheard := by
  have hothers : (p.agenda.wakeIf fun z => isListen z.task).pick Task.works? = p.agenda.pick Task.works? :=
    Agenda.pick_wakeIf_none fun z t ht => by
      cases hz : z.task <;> first | rfl | (rw [hz] at ht; cases ht)
  have hnone : ((p.agenda.asleep.filter fun z => !isListen z.task).filterMap fun z =>
      z.task.listens?.map (Sleeper.mk z.due)) = [] :=
    List.filterMap_eq_nil_iff.2 fun z hz => by
      rw [listens?_of_not z.task (by simpa using (List.mem_filter.1 hz).2), Option.map_none]
  simp only [step, publish_eq hreaders e, Option.getD_some]
  refine ⟨trivial, congrArg (p.agenda.ready ++ ·) (woken_eq p.agenda.asleep), hnone, ?_⟩
  simp [unheard, Erasure.erase, listening, hothers]

/-- With the listener in the line, what is published is sent and nothing else. -/
theorem foldl_publish {n : Nat} (hreaders : p.bus.readers = [some n]) (hasleep : p.lookout.asleep = []) (es : List TabEvent) :
    (run x p (es.map .publish)).bus = { p.bus with sent := p.bus.sent ++ es } ∧
      (run x p (es.map .publish)).agenda.ready = p.agenda.ready ∧ (run x p (es.map .publish)).lookout.asleep = [] ∧
      (run x p (es.map .publish)).unheard = p.unheard := by
  induction es generalizing p with
  | nil => exact ⟨by rw [List.append_nil]; rfl, rfl, hasleep, rfl⟩
  | cons e es ih =>
    obtain ⟨hbus, hready, hasleep', hunheard⟩ := publish_spec (x := x) hreaders e
    obtain ⟨kbus, kready, kasleep, kunheard⟩ := ih (p := step x p (.publish e)) (by rw [hbus]; exact hreaders) hasleep'
    refine ⟨kbus.trans ?_, kready.trans ?_, kasleep, kunheard.trans hunheard⟩
    · rw [hbus]
      simp
    · rw [hready, hasleep, List.map_nil, List.append_nil]

/-- Publishing to a listener that waits, when no task is ready, puts it at the front of the line. -/
theorem publishes_to (h : p.Attentive) (hquiet : p.agenda.ready = []) (e : TabEvent) (es : List TabEvent) :
    (run x p ((e :: es).map .publish)).bus = { p.bus with sent := p.bus.sent ++ e :: es } ∧
      (run x p ((e :: es).map .publish)).Foremost p.bus.sent.length ∧ (run x p ((e :: es).map .publish)).unheard = p.unheard := by
  obtain ⟨hbus, hready, hasleep, hunheard⟩ := publish_spec (x := x) h.readers e
  obtain ⟨kbus, kready, kasleep, kunheard⟩ :=
    foldl_publish (x := x) (p := step x p (.publish e)) (by rw [hbus]; exact h.readers) hasleep es
  have hsent : (run x p ((e :: es).map .publish)).bus = { p.bus with sent := p.bus.sent ++ e :: es } := by
    refine kbus.trans ?_
    rw [hbus]
    simp
  have hfirst : (run x p ((e :: es).map .publish)).agenda.ready = [.listen] := by
    refine kready.trans ?_
    rw [hready, hquiet, h.asleep]
    rfl
  have hline : (run x p ((e :: es).map .publish)).lookout.ready = [()] := congrArg (List.filterMap Task.listens?) hfirst
  refine ⟨hsent, ⟨⟨[], hfirst⟩, hline, kasleep, by rw [hsent]; exact h.readers, ?_⟩, kunheard.trans hunheard⟩
  rw [hsent]
  simp

/-- **Publishing to a listener that waits, and settling**: the last events, as many as the bus remembers, are called for in
portions. -/
theorem settle_published (h : p.Attentive) (hquiet : p.agenda.ready = []) (es : List TabEvent) :
    let portion := if p.bus.capacity < es.length then deliveriesPerTurn - 1 else deliveriesPerTurn
    ((loop x).settle (run x p (es.map .publish))).unheard =
        (loop x).settle (paced x portion p.unheard (es.drop (es.length - p.bus.capacity))) ∧
      ((loop x).settle (run x p (es.map .publish))).Attentive := by
  intro portion
  cases hes : es with
  | nil =>
    obtain ⟨hsettle, hstill⟩ := unheard_settle (x := x) h.ready
    rw [List.drop_nil, paced]
    exact ⟨hsettle, h.still hstill⟩
  | cons e es' =>
    obtain ⟨hbus, hforemost, hunheard⟩ := publishes_to (x := x) h hquiet e es'
    rw [← hes] at hbus hforemost hunheard ⊢
    have holdest : (run x p (es.map .publish)).bus.oldest = p.bus.sent.length + es.length - p.bus.capacity := by
      rw [hbus, Bus.oldest, List.length_append]
    have hportion : room (run x p (es.map .publish)).bus p.bus.sent.length = portion := by
      unfold room
      rw [holdest]
      exact if_congr (by omega) rfl rfl
    have hlate : max p.bus.sent.length (p.bus.sent.length + es.length - p.bus.capacity) =
        p.bus.sent.length + (es.length - p.bus.capacity) := by omega
    rw [← hunheard, ← hportion]
    refine settles_first hforemost ?_
    rw [holdest, hlate, hbus]
    exact List.drop_length_add_append _

/-! ## Publishing and calling -/

/-- **What is published is called for.** When no task is ready and the bus is followed, publishing tab events one after the other
and settling leaves everything but the bus and the listener as it is left by calling for the last of these events, as many as the
bus remembers, each once and in their order, and settling. They are called for in portions of what the listener takes in a turn,
the news of missed events included, with a turn of every task that is ready between two portions; so up to one portion they are
called for at once. The listener goes on: it waits for events then, and has passed all of them. -/
theorem published_as_called (x : Setup) (c : Policy.Center) (capacity : Nat) (before : List Op) (es : List TabEvent) :
    let p := run x (start c (some capacity)) before
    let remembered := (max capacity 1).nextPowerOfTwo
    let late := es.drop (es.length - remembered)
    let portion := if remembered < es.length then deliveriesPerTurn - 1 else deliveriesPerTurn
    let heard := run x p (es.map .publish ++ [.settle])
    let called := (loop x).settle (paced x portion p late)
    p.agenda.isQuiet = true → 0 < p.bus.subscribers →
      heard.unheard = called.unheard ∧ Indistinct heard called ∧
      (late.length ≤ portion → called = run x p (late.map TabEvent.call ++ [.settle])) ∧
      heard.agenda.isQuiet = true ∧ heard.Attentive := by
  intro p remembered late portion heard called hquiet hfollowed
  have hposted : ListenerTracked remembered p := run_listenerTracked x c capacity before
  have hattentive := hposted.attentive hquiet hfollowed
  have hrun (ops : List Op) : run x p (ops ++ [.settle]) = (loop x).settle (run x p ops) := by
    rw [run, List.foldl_append]
    rfl
  have hheard : heard = (loop x).settle (run x p (es.map .publish)) := hrun _
  obtain ⟨hpublished, hattentive'⟩ := settle_published (x := x) hattentive (List.isEmpty_iff.1 hquiet) es
  rw [hposted.capacity_eq] at hpublished
  have hsame : heard.unheard = called.unheard := by
    obtain ⟨hpaced, hready⟩ := unheard_paced (x := x) hattentive.ready portion late
    calc heard.unheard
        = (loop x).settle (paced x portion p.unheard late) := by rw [hheard, hpublished]
      _ = (loop x).settle (paced x portion p late).unheard := by rw [hpaced]
      _ = called.unheard := (unheard_settle hready).1.symm
  refine ⟨hsame, .of_erase listening hsame, ?_, ?_, hheard ▸ hattentive'⟩
  · intro hle
    rw [hrun, run_calls_eq, ← paced_of_le hle]
  · have hsettled := ((loop_settles x).settle_punctual (run x p (es.map .publish))).1
    rw [← hrun] at hsettled
    exact List.isEmpty_iff.2 hsettled

/-- a tab with an ad, a request that waits for it, and a hook -/
def waitingForPage : List Op :=
  [.settle, .setPage "tab" (some (samplePage [sampleAd "ad"])) .none, .request "tab" "ad", .hook]

def pageLoaded : TabEvent :=
  .loaded "tab" ⟨"https".toList, [], [], some (.domain "search.brave.com".toList), none, .segments [], none, none⟩ true

/-- The news that the page was left is missed, and the request is answered. -/
theorem published_as_called_missing_one :
    let x : Setup := .withoutPolicy .live .prompt
    let p := run x (start (.ofSnapshot .start) (some 2)) waitingForPage
    let heard := run x p ([.publish (.navigated "tab"), .publish pageLoaded, .publish (.closed "other")] ++ [.settle])
    p.agenda.isQuiet = true ∧ 0 < p.bus.subscribers ∧
      heard.unheard = (run x p [pageLoaded.call, .reset "other", .settle]).unheard ∧ heard.requests = [.decided true] ∧
      heard.hooks = [some "tab"] ∧ heard.Attentive := by
  intro x p heard
  have hquiet : p.agenda.isQuiet = true := by decide +kernel
  have hfollowed : 0 < p.bus.subscribers := by decide +kernel
  obtain ⟨hsame, -, hcalled, -, hattentive⟩ := published_as_called x (.ofSnapshot .start) 2 waitingForPage
    [.navigated "tab", pageLoaded, .closed "other"] hquiet hfollowed
  have hremembered : (max 2 1).nextPowerOfTwo = 2 := by decide +kernel
  have hcalled' := hcalled (by decide +kernel)
  rw [hremembered] at hsame hcalled'
  exact ⟨hquiet, hfollowed, hsame.trans (congrArg unheard hcalled'), by decide +kernel, by decide +kernel, hattentive⟩

/-- a page is loaded and its tab closed, and so much happens to another tab in between that one portion does not suffice -/
def pastPortion : List TabEvent := pageLoaded :: (List.replicate 127 (.navigated "other") ++ [.closed "tab"])

/-- **Past a portion it makes a difference**: the bus remembers all of these events. Called for at once, the tab is closed before
its page is fetched, and the request is abandoned; published, the page is fetched first, and the request is answered. -/
theorem published_past_portion :
    let x : Setup := .withoutPolicy .live .prompt
    let p := run x (start (.ofSnapshot .start) (some 256)) waitingForPage
    p.agenda.isQuiet = true ∧ 0 < p.bus.subscribers ∧ p.bus.capacity = 256 ∧ pastPortion.length = 129 ∧
      (run x p (pastPortion.map .publish ++ [.settle])).requests = [.decided true] ∧
      (run x p (pastPortion.map TabEvent.call ++ [.settle])).requests = [.abandoned "tab"] := by
  decide +kernel

end AdConfirm.Pipeline
