import AdConfirm.Proofs.Pipeline.LawfulRuns
import AdConfirm.Proofs.Pipeline.Erasure

/-!
The task that follows the bus.

As long as the bus is followed there is one task that does so, and it is in the line or waits for an event, and it only waits when
it has passed all that was published. No other task touches the bus, or that one: whatever else happens puts new tasks behind
those that are there.

- `Aside`: the bus is untouched, and there are new tasks at most, none of which follows the bus. `Still`: the bus and the listener
  are as they were.
- `turn_aside`, `follow_aside`: so it is after a turn of any other task, and after what a tab event asks for.
- `unheard`: a pipeline without the bus and the listener. `unheard_turn`: any other task does the same there.
- `Takes`: events are taken from the bus. `listen_takes`: in their order, by induction on how many the listener may take.
  `turn_listen`: a turn of the listener.
-/

namespace AdConfirm

namespace Bus

variable {α : Type} {b : Bus α} {i n : Nat}

/-- A subscriber who has missed nothing gets the first event that it has not passed. -/
theorem receive_ahead (h : b.readers = [some n]) (hold : b.oldest ≤ n) :
    b.receive 0 =
      match b.sent.drop n with
      | [] => (b, .nothing)
      | a :: _ => ({ b with readers := [some (n + 1)] }, .event a) := by
  have hnot : ¬ n < b.oldest := by omega
  simp only [receive, h, List.getElem?_cons_zero, hnot, if_false]
  cases hsent : b.sent[n]? with
  | none => rw [List.drop_eq_nil_of_le (List.getElem?_eq_none_iff.1 hsent)]
  | some a =>
    obtain ⟨hlt, ha⟩ := List.getElem?_eq_some_iff.1 hsent
    rw [List.drop_eq_getElem_cons hlt, ha]
    rfl

end Bus

namespace Pipeline

open AdConfirm.Tab (Ticket)

/-- the task that follows the bus, if it is that -/
def Task.listens? : Task → Option Unit
  | .listen => some ()
  | _ => none

/-- where the listener is -/
def lookout (p : Pipeline) : Agenda Unit := p.agenda.pick Task.listens?

variable {x : Setup} {p q r : Pipeline}

/-! ## Aside of the listener -/

/-- new tasks at most, behind those that were there, and none of them follows the bus -/
structure Adds (p q : Pipeline) : Prop where
  ready : ∃ ts, (∀ t ∈ ts, isListen t = false) ∧ q.agenda.ready = p.agenda.ready ++ ts
  asleep : ∃ zs, (∀ z ∈ zs, isListen z.task = false) ∧ q.agenda.asleep = p.agenda.asleep ++ zs

/-- the bus is as it was, too -/
structure Aside (p q : Pipeline) : Prop extends Adds p q where
  bus : q.bus = p.bus

theorem listens?_of_not (t : Task) (h : isListen t = false) : t.listens? = none := by
  cases t <;> first | rfl | cases h

namespace Adds

theorem of_agenda (h : q.agenda = p.agenda) : Adds p q := ⟨⟨[], by simp, by simp [h]⟩, ⟨[], by simp, by simp [h]⟩⟩

theorem trans (h : Adds p q) (k : Adds q r) : Adds p r := by
  obtain ⟨⟨ts, hts, hready⟩, zs, hzs, hasleep⟩ := h
  obtain ⟨⟨us, hus, kready⟩, ys, hys, kasleep⟩ := k
  refine ⟨⟨ts ++ us, ?_, by rw [kready, hready, List.append_assoc]⟩, zs ++ ys, ?_, by rw [kasleep, hasleep, List.append_assoc]⟩
  · exact List.forall_mem_append.2 ⟨hts, hus⟩
  · exact List.forall_mem_append.2 ⟨hzs, hys⟩

/-- The listener is where it was. -/
theorem lookout (h : Adds p q) : q.lookout.ready = p.lookout.ready ∧ q.lookout.asleep = p.lookout.asleep := by
  obtain ⟨⟨ts, hts, hready⟩, zs, hzs, hasleep⟩ := h
  have hnone : ts.filterMap Task.listens? = [] :=
    List.filterMap_eq_nil_iff.2 fun t ht => listens?_of_not t (hts t ht)
  have hnone' : zs.filterMap (fun z => (z.task.listens?).map (Sleeper.mk z.due)) = [] :=
    List.filterMap_eq_nil_iff.2 fun z hz => by rw [listens?_of_not z.task (hzs z hz), Option.map_none]
  constructor
  · simp [Pipeline.lookout, Agenda.pick, hready, hnone]
  · simp [Pipeline.lookout, Agenda.pick, hasleep, hnone']

end Adds

namespace Aside

theorem of_eq (agenda : q.agenda = p.agenda) (bus : q.bus = p.bus) : Aside p q := ⟨.of_agenda agenda, bus⟩

theorem refl (p : Pipeline) : Aside p p := of_eq rfl rfl

theorem trans (h : Aside p q) (k : Aside q r) : Aside p r := ⟨h.toAdds.trans k.toAdds, k.bus.trans h.bus⟩

theorem spawn (h : Aside p q) {t : Task} (ht : isListen t = false) : Aside p (q.spawn t) :=
  h.trans ⟨⟨⟨[t], by simpa using ht, rfl⟩, [], by simp, by simp [Pipeline.spawn, Agenda.spawn]⟩, rfl⟩

theorem sleepUntil (h : Aside p q) (due : Nat) {t : Task} (ht : isListen t = false) :
    Aside p { q with agenda := q.agenda.sleepUntil due t } :=
  h.trans ⟨⟨⟨[], by simp, by simp [Agenda.sleepUntil]⟩, [⟨some due, t⟩], by simpa using ht, rfl⟩, rfl⟩

theorem of_claim {b : Bool} (h : Frame p q (claimed b)) : Aside p q := by
  refine ⟨⟨⟨claimed b, ?_, by rw [h.agenda]⟩, [], by simp, by simp [h.agenda]⟩, h.bus⟩
  cases b <;> simp [claimed, isListen]

theorem of_frame (h : Frame p q []) : Aside p q := of_claim (b := false) h

end Aside

/-- the bus is as it was, and the listener is where it was -/
structure Still (p q : Pipeline) : Prop where
  bus : q.bus = p.bus
  ready : q.lookout.ready = p.lookout.ready
  asleep : q.lookout.asleep = p.lookout.asleep

theorem Still.refl (p : Pipeline) : Still p p := ⟨rfl, rfl, rfl⟩

theorem Still.trans (h : Still p q) (k : Still q r) : Still p r :=
  ⟨k.bus.trans h.bus, k.ready.trans h.ready, k.asleep.trans h.asleep⟩

theorem Aside.still (h : Aside p q) : Still p q := ⟨h.bus, h.toAdds.lookout.1, h.toAdds.lookout.2⟩

/-- Taking another task than the listener out of the line. -/
theorem still_of_taken {t : Task} {rest : List Task} (hready : p.agenda.ready = t :: rest) (ht : isListen t = false) :
    Still p { p with agenda := { p.agenda with ready := rest } } := by
  refine ⟨rfl, ?_, rfl⟩
  simp [Pipeline.lookout, Agenda.pick, hready, listens?_of_not t ht]

theorem begin_aside (p : Pipeline) (tab : String) (url : Url) (trigger : Bool) :
    Aside p (Pipeline.begin x p tab url trigger).1 := by
  unfold Pipeline.begin
  simp only
  split <;> exact .of_eq rfl rfl

theorem conclude_aside (p : Pipeline) (t : Ticket) (a : Arrival) : Aside p (conclude x p t a) := by
  have harrive : Aside p (arrive x p t a) := by
    unfold arrive
    simp only
    split <;> exact .of_eq rfl rfl
  obtain ⟨isClaimed, hfinish⟩ := finish_claims x (arrive x p t a) t
    (if (p.source.conclude t a).2 then adsOfPage (p.source.page? t.tab) else Table.empty)
  rw [conclude_eq]
  exact harrive.trans (.of_claim hfinish)

theorem proceed_aside (p : Pipeline) (t : Ticket) (s : Stage) : Aside p (proceed x p t s).1 := by
  cases s with
  | begun isAdmitted =>
    cases isAdmitted with
    | false =>
      obtain ⟨isClaimed, hfinish⟩ := finish_claims x p t Table.empty
      exact .of_claim hfinish
    | true =>
      have hask : Aside p (ask x p t) := .of_eq rfl rfl
      simp only [proceed]
      split
      · exact hask.trans (conclude_aside (ask x p t) t _)
      · exact hask
  | fetching a => exact conclude_aside p t a

theorem ingest_aside (p : Pipeline) (tab : String) (url : Url) (trigger : Bool) : Aside p (ingest x p tab url trigger) :=
  (begin_aside p tab url trigger).spawn rfl

/-- What a tab event asks for is done aside of the listener. -/
theorem follow_aside (p : Pipeline) (e : TabEvent) : Aside p (follow x p e) := by
  cases e with
  | loaded tab url trigger => exact ingest_aside p tab url trigger
  | navigated tab => exact .of_frame (p.reset_frame tab)
  | closed tab => exact .of_frame (p.reset_frame tab)

/-- **Every other task takes its turn aside of the listener.** -/
theorem turn_aside (p : Pipeline) {t : Task} (ht : isListen t = false) : Aside p (turn x p t) := by
  cases t with
  | listen => cases ht
  | drain d =>
    have hdrain : Aside p (p.drain x d) := .of_frame (drain_frame x p d)
    unfold drain at hdrain
    simp only [turn]
    split
    · exact hdrain
    · exact hdrain.sleepUntil _ rfl
  | timer e =>
    cases e with
    | set path ttl => exact (Aside.refl p).sleepUntil _ rfl
    | due path => exact .of_eq rfl rfl
  | ingest t s =>
    have hproceed := proceed_aside (x := x) p t s
    simp only [turn]
    split
    · next q hq =>
      rw [hq] at hproceed
      exact hproceed
    · next q time s' hq =>
      rw [hq] at hproceed
      exact hproceed.sleepUntil _ rfl

/-! ## Without the listener -/

/-- the task, unless it follows the bus -/
def Task.works? : Task → Option Task
  | .listen => none
  | t => some t

theorem works?_of_not (t : Task) (h : isListen t = false) : t.works? = some t := by
  cases t <;> first | rfl | cases h

/-- the bus, the task that follows it, and the news of missed events are erased -/
def listening : Erasure where
  source := id
  bus _ := .ofCapacity 1
  agenda a := a.pick Task.works?
  note
    | .lagged _ => none
    | n => some n
  now _ := rfl
  spawn a t h := by
    rw [Agenda.pick_spawn, works?_of_not t h]
    rfl
  sleepUntil a due t h := by
    rw [Agenda.pick_sleepUntil, works?_of_not t h]
    rfl
  own n h := by cases n <;> first | rfl | cases h
  foreign n m h hm := by cases n <;> cases hm <;> exact h

/-- the pipeline without its bus, the task that follows it, and the news of missed events -/
def unheard (p : Pipeline) : Pipeline := listening.erase p

theorem unheard_conclude (p : Pipeline) (t : Ticket) (a : Arrival) : (conclude x p t a).unheard = conclude x p.unheard t a := by
  have hsource : p.unheard.source = p.source := rfl
  have harrive : (arrive x p t a).unheard = arrive x p.unheard t a := by
    unfold arrive
    rw [hsource]
    split <;> rfl
  rw [conclude_eq, conclude_eq, hsource, ← harrive]
  exact listening.erase_finish x _ t _

/-- An attempt does the same without the listener, and waits for as long. -/
theorem unheard_proceed (p : Pipeline) (t : Ticket) (s : Stage) :
    (proceed x p t s).1.unheard = (proceed x p.unheard t s).1 ∧ (proceed x p t s).2 = (proceed x p.unheard t s).2 := by
  cases s with
  | fetching a => exact ⟨unheard_conclude p t a, rfl⟩
  | begun isAdmitted =>
    cases isAdmitted with
    | false => exact ⟨listening.erase_finish x p t .empty, rfl⟩
    | true =>
      have hsource : p.unheard.source = p.source := rfl
      have hask : (ask x p t).unheard = ask x p.unheard t := rfl
      rw [proceed_begun, proceed_begun, hsource]
      split_ifs
      · exact ⟨unheard_conclude (ask x p t) t _, rfl⟩
      · exact ⟨hask, rfl⟩

/-- **Every other task does in its turn what it would do without the listener.** -/
theorem unheard_turn (p : Pipeline) {t : Task} (ht : isListen t = false) : (turn x p t).unheard = turn x p.unheard t := by
  have hsleep (q : Pipeline) (due : Nat) {t : Task} (ht : isListen t = false) :
      Pipeline.unheard { q with agenda := q.agenda.sleepUntil due t } =
        { q.unheard with agenda := q.unheard.agenda.sleepUntil due t } := by
    simp [unheard, Erasure.erase, listening.sleepUntil q.agenda due t ht]
  cases t with
  | listen => cases ht
  | drain d =>
    have hdrain : (p.drain x d).unheard = p.unheard.drain x d := listening.erase_drain x p d
    have hqueue : p.unheard.queue = p.queue := rfl
    unfold drain at hdrain
    rw [hqueue] at hdrain
    simp only [turn, hqueue, ← hdrain]
    split
    · rfl
    · exact hsleep _ _ rfl
  | timer e =>
    cases e with
    | set path ttl => exact hsleep p _ rfl
    | due path => rfl
  | ingest t s =>
    obtain ⟨hproceed, hwait⟩ := unheard_proceed (x := x) p t s
    simp only [turn]
    generalize proceed x p t s = c at hproceed hwait
    generalize proceed x p.unheard t s = c' at hproceed hwait
    obtain ⟨q, wait⟩ := c
    obtain ⟨q', wait'⟩ := c'
    obtain rfl : q.unheard = q' := hproceed
    obtain rfl : wait = wait' := hwait
    cases wait with
    | none => rfl
    | some wait => exact hsleep q _ rfl

/-! ## The listener -/

/-- these events are taken from the bus, in their order, and what they ask for is done -/
structure Takes (x : Setup) (es : List TabEvent) (n : Nat) (p q : Pipeline) : Prop extends Adds p q where
  bus : q.bus = { p.bus with readers := [some n] }
  unheard : q.unheard = es.foldl (follow x) p.unheard

namespace Takes

variable {e : TabEvent} {es : List TabEvent} {m n : Nat}

/-- Passing events, and noting that some were missed, is nothing to be seen of. -/
theorem passed (agenda : q.agenda = p.agenda) (bus : q.bus = { p.bus with readers := [some m] }) (unheard : q.unheard = p.unheard)
    (h : Takes x es n q r) : Takes x es n p r :=
  ⟨(Adds.of_agenda agenda).trans h.toAdds, by rw [h.bus, bus], by rw [h.unheard, unheard]⟩

/-- What the first event asks for is done, and then the others are taken. -/
theorem cons (h : Takes x es n (follow x p e) q) : Takes x (e :: es) n p q := by
  refine ⟨(follow_aside p e).toAdds.trans h.toAdds, by rw [h.bus, (follow_aside p e).bus], ?_⟩
  rw [h.unheard, List.foldl_cons]
  exact congrArg (es.foldl (follow x)) (listening.erase_follow x p e)

end Takes

/-- **The listener takes events in their order**, as many as it may, and tells whether there were so many. -/
theorem listen_takes {n : Nat} (k : Nat) (hreaders : p.bus.readers = [some n]) (hold : p.bus.oldest ≤ n) :
    Takes x ((p.bus.sent.drop n).take k) (n + min k (p.bus.sent.drop n).length) p (listen x k p).1 ∧
      (listen x k p).2 = decide (k ≤ (p.bus.sent.drop n).length) := by
  have hbus : { p.bus with readers := [some n] } = p.bus := by rw [← hreaders]
  induction k generalizing p n with
  | zero => exact ⟨⟨.of_agenda rfl, by simp [listen, hbus], rfl⟩, by simp [listen]⟩
  | succ k ih =>
    have hreceive := Bus.receive_ahead hreaders hold
    cases hes : p.bus.sent.drop n with
    | nil =>
      rw [hes] at hreceive
      have hlisten : listen x (k + 1) p = (p, false) := by
        rw [listen, show p.bus.receive listener = (p.bus, .nothing) from hreceive]
      rw [hlisten]
      exact ⟨⟨.of_agenda rfl, by simp [hbus], rfl⟩, by simp⟩
    | cons e es =>
      rw [hes] at hreceive
      let p₁ : Pipeline := { p with bus := { p.bus with readers := [some (n + 1)] } }
      let p' := follow x p₁ e
      have hbus' : p'.bus = { p.bus with readers := [some (n + 1)] } := (follow_aside p₁ e).bus
      have hrest : p'.bus.sent.drop (n + 1) = es := by
        rw [hbus', ← List.drop_drop, hes]
        rfl
      have hlisten : listen x (k + 1) p = listen x k p' := by
        rw [listen, show p.bus.receive listener = (_, .event e) from hreceive]
      obtain ⟨htakes, htook⟩ := ih (p := p') (n := n + 1) (by rw [hbus']) (by rw [hbus']; exact hold.trans (Nat.le_succ n))
        (by rw [hbus'])
      rw [hrest] at htakes htook
      rw [hlisten]
      refine ⟨?_, by simp [htook]⟩
      have hcount : n + min (k + 1) (e :: es).length = n + 1 + min k es.length := by simp; omega
      rw [hcount]
      exact .passed (q := p₁) rfl rfl rfl htakes.cons

/-- how many events the listener may take in a turn when it has passed so many: one less when it is told that it missed some -/
def room (b : Bus TabEvent) (n : Nat) : Nat := if n < b.oldest then deliveriesPerTurn - 1 else deliveriesPerTurn

/-- **A turn of the listener**: it takes the events that the bus remembers of those it has not passed. If it took as many as it
may it goes to the end of the line, otherwise it has taken all of them and waits. -/
theorem turn_listen {n : Nat} (hreaders : p.bus.readers = [some n]) :
    ∃ q, let es := p.bus.sent.drop (max n p.bus.oldest)
      Takes x (es.take (room p.bus n)) (max n p.bus.oldest + min (room p.bus n) es.length) p q ∧
        turn x p .listen =
          if room p.bus n ≤ es.length then q.spawn .listen else { q with agenda := q.agenda.sleep .listen } := by
  by_cases hlag : n < p.bus.oldest
  · let p₁ : Pipeline :=
      Pipeline.note { p with bus := { p.bus with readers := [some p.bus.oldest] } } (.lagged (p.bus.oldest - n))
    have hroom : room p.bus n = 127 := if_pos hlag
    have hreceive : p.bus.receive listener =
        ({ p.bus with readers := [some p.bus.oldest] }, .lagged (p.bus.oldest - n)) := by
      simp [Bus.receive, listener, hreaders, hlag]
    have hlisten : listen x deliveriesPerTurn p = listen x 127 p₁ := by rw [deliveriesPerTurn, listen, hreceive]
    obtain ⟨htakes, htook⟩ := listen_takes (x := x) (p := p₁) 127 rfl le_rfl
    refine ⟨(listen x 127 p₁).1, ?_⟩
    rw [hroom, Nat.max_eq_right hlag.le]
    refine ⟨.passed (q := p₁) rfl rfl (listening.erase_unnoted _ rfl) htakes, ?_⟩
    simp only [turn, hlisten, htook, decide_eq_true_eq]
    rfl
  · have hold : p.bus.oldest ≤ n := Nat.le_of_not_lt hlag
    have hroom : room p.bus n = deliveriesPerTurn := if_neg hlag
    obtain ⟨htakes, htook⟩ := listen_takes (x := x) deliveriesPerTurn hreaders hold
    refine ⟨(listen x deliveriesPerTurn p).1, ?_⟩
    rw [hroom, Nat.max_eq_left hold]
    refine ⟨htakes, ?_⟩
    simp only [turn, htook, decide_eq_true_eq]

end Pipeline

end AdConfirm
