import AdConfirm.Dispatch.Queue
import Mathlib.Tactic

/-!
What one turn of a drain task does to the queue.

- `Drains`: the five things that can become of a drain that is about to take an entry, guards included. `drains` is the one
  place that opens the recursion of the drain; every other fact about a turn is an induction on `Drains`.
- `View`: the queue as its notes tell it, the entries that wait and the calls in flight. `Follows` says which notes can come
  one after the other: only the newest entry is handed over, only when no call is in flight, and what ends is the call in
  flight, as the reporter has it.
- `turn_follows`: the notes of a turn follow each other, from the view before the turn to the view after it.
- `turn_stops`: a drain stops only because a section is open, nothing waits, or the reporter broke down.
-/

namespace AdConfirm.Dispatch

/-- what becomes of a drain that is about to take an entry -/
inductive Drains (reporter : Reporter) (limit : Nat) : Queue → DrainTurn → Prop where
  | held (q : Queue) (hs : 0 < q.sections) : Drains reporter limit q ⟨{ q with dispatching := false }, [], none⟩
  | emptied (q : Queue) (hs : q.sections = 0) (hq : q.stack.entries = []) :
      Drains reporter limit q ⟨{ q with dispatching := false }, [], none⟩
  | broke (q : Queue) (e : Entry) (rest : List Entry) (hs : q.sections = 0) (hq : q.stack.entries = e :: rest)
      (hc : (reporter e).under limit = (0, .brokeDown)) :
      Drains reporter limit q ⟨(q.handOver ⟨rest⟩).finish .brokeDown, [.started e, .ended e .brokeDown], none⟩
  | waits (q : Queue) (e : Entry) (rest : List Entry) (time : Nat) (o : Outcome) (hs : q.sections = 0)
      (hq : q.stack.entries = e :: rest) (hc : (reporter e).under limit = (time, o)) (ht : time ≠ 0) :
      Drains reporter limit q ⟨q.handOver ⟨rest⟩, [.started e], some (time, .calling e o)⟩
  | goesOn (q : Queue) (e : Entry) (rest : List Entry) (o : Outcome) (t : DrainTurn) (hs : q.sections = 0)
      (hq : q.stack.entries = e :: rest) (hc : (reporter e).under limit = (0, o)) (ho : o ≠ .brokeDown)
      (h : Drains reporter limit ((q.handOver ⟨rest⟩).finish o) t) :
      Drains reporter limit q { t with notes := .started e :: .ended e o :: t.notes }

variable (reporter : Reporter) (limit : Nat)

theorem pop?_eq_none {s : Stack} (h : s.pop? = none) : s.entries = [] := by
  unfold Stack.pop? at h
  split at h
  · assumption
  · simp at h

theorem pop?_eq_some {s rest : Stack} {e : Entry} (h : s.pop? = some (e, rest)) : s.entries = e :: rest.entries := by
  unfold Stack.pop? at h
  split at h
  · simp at h
  · next hs =>
    simp only [Option.some.injEq, Prod.mk.injEq] at h
    obtain ⟨rfl, rfl⟩ := h
    exact hs

/-- the drain comes to one of these -/
theorem drains (q : Queue) : Drains reporter limit q (q.drain reporter limit) := by
  fun_induction Queue.drain reporter limit q with
  | case1 q hs => exact .held q hs
  | case2 q hs hp => exact .emptied q (by omega) (pop?_eq_none hp)
  | case3 q hs e rest hp q' hc => exact .broke q e rest.entries (by omega) (pop?_eq_some hp) hc
  | case4 q hs e rest hp o q' ho t hc ih => exact .goesOn q e rest.entries o t (by omega) (pop?_eq_some hp) hc ho ih
  | case5 q hs e rest hp time o hc q' ht => exact .waits q e rest.entries time o (by omega) (pop?_eq_some hp) hc ht

/-- a turn is that of a new drain, or the end of a call, after which the drain goes on or has died -/
theorem turn_cases (q : Queue) (d : Drain) :
    (d = .start ∧ Drains reporter limit q (q.turn reporter limit d)) ∨
    (∃ e, d = .calling e .brokeDown ∧
      q.turn reporter limit d = ⟨q.finish .brokeDown, [.ended e .brokeDown], none⟩) ∨
    ∃ e o t, d = .calling e o ∧ o ≠ .brokeDown ∧ Drains reporter limit (q.finish o) t ∧
      q.turn reporter limit d = { t with notes := .ended e o :: t.notes } := by
  cases d with
  | start => exact Or.inl ⟨rfl, drains reporter limit q⟩
  | calling e o =>
    right
    by_cases ho : o = .brokeDown
    · subst ho
      exact Or.inl ⟨e, rfl, by simp [Queue.turn]⟩
    · exact Or.inr ⟨e, o, _, rfl, ho, drains reporter limit (q.finish o), by simp [Queue.turn, ho]⟩

/-! ## What a turn leaves alone -/

@[simp] theorem sections_finish (q : Queue) (o : Outcome) : (q.finish o).sections = q.sections := by cases o <;> rfl

@[simp] theorem nextSeq_finish (q : Queue) (o : Outcome) : (q.finish o).nextSeq = q.nextSeq := by cases o <;> rfl

theorem dispatching_finish {q : Queue} {o : Outcome} (ho : o ≠ .brokeDown) :
    (q.finish o).dispatching = q.dispatching := by
  cases o with
  | recorded placement => rfl
  | failed fault => rfl
  | brokeDown => exact absurd rfl ho

variable {reporter limit}

theorem Drains.frame {q : Queue} {t : DrainTurn} (h : Drains reporter limit q t) :
    t.queue.sections = q.sections ∧ t.queue.nextSeq = q.nextSeq := by
  induction h with
  | held | emptied | waits => exact ⟨rfl, rfl⟩
  | broke q e rest => exact ⟨sections_finish .., nextSeq_finish ..⟩
  | goesOn q e rest o t hs hq hc ho h ih =>
    exact ⟨ih.1.trans (sections_finish ..), ih.2.trans (nextSeq_finish ..)⟩

theorem turn_frame (q : Queue) (d : Drain) :
    (q.turn reporter limit d).queue.sections = q.sections ∧
      (q.turn reporter limit d).queue.nextSeq = q.nextSeq := by
  rcases turn_cases reporter limit q d with ⟨-, h⟩ | ⟨e, -, h⟩ | ⟨e, o, t, -, -, ht, h⟩
  · exact h.frame
  · rw [h]; exact ⟨rfl, rfl⟩
  · rw [h]
    exact ⟨ht.frame.1.trans (sections_finish ..), ht.frame.2.trans (nextSeq_finish ..)⟩

@[simp] theorem enqueued_finish (q : Queue) (o : Outcome) : (q.finish o).counters.enqueued = q.counters.enqueued := by
  cases o <;> rfl

theorem Drains.enqueued {q : Queue} {t : DrainTurn} (h : Drains reporter limit q t) :
    t.queue.counters.enqueued = q.counters.enqueued := by
  induction h with
  | held | emptied | broke | waits => rfl
  | goesOn q e rest o t hs hq hc ho h ih => exact ih.trans (enqueued_finish ..)

/-- A turn queues nothing. -/
theorem enqueued_turn (q : Queue) (d : Drain) :
    (q.turn reporter limit d).queue.counters.enqueued = q.counters.enqueued := by
  rcases turn_cases reporter limit q d with ⟨-, h⟩ | ⟨e, -, h⟩ | ⟨e, o, t, -, -, ht, h⟩
  · exact h.enqueued
  · rw [h]; exact enqueued_finish ..
  · rw [h]; exact ht.enqueued.trans (enqueued_finish ..)

theorem Drains.rest {q : Queue} {t : DrainTurn} (h : Drains reporter limit q t) :
    t.queue.stack.entries.Sublist q.stack.entries := by
  induction h with
  | held | emptied => exact .refl _
  | broke q e rest hs hq | waits q e rest _ _ hs hq => rw [hq]; exact List.sublist_cons_self e rest
  | goesOn q e rest o t hs hq hc ho h ih =>
    rw [hq]
    exact (by simpa [Queue.handOver] using ih : t.queue.stack.entries.Sublist rest).cons e

/-- A turn takes entries away, and leaves the others in their order. -/
theorem turn_rest (q : Queue) (d : Drain) :
    (q.turn reporter limit d).queue.stack.entries.Sublist q.stack.entries := by
  rcases turn_cases reporter limit q d with ⟨-, h⟩ | ⟨e, -, h⟩ | ⟨e, o, t, -, -, ht, h⟩
  · exact h.rest
  · rw [h]; exact .refl _
  · rw [h]; simpa using ht.rest

/-! ## The drain that is left -/

/-- the drain that a turn leaves, if it has not ended -/
def DrainTurn.left (t : DrainTurn) : List Drain := (t.next.map (·.2)).toList

/-- a drain waits for what the reporter makes of the call -/
def Drain.Awaits (reporter : Reporter) (limit : Nat) : Drain → Prop
  | .start => True
  | .calling e o => o = ((reporter e).under limit).2

/-- the flag of the queue stands for the drain: either none is left and the flag is cleared, or one is and it is set -/
def Flagged (reporter : Reporter) (limit : Nat) (q : Queue) (ds : List Drain) : Prop :=
  (ds = [] ∧ q.dispatching = false) ∨ ∃ d, ds = [d] ∧ q.dispatching = true ∧ d.Awaits reporter limit

theorem Drains.flagged {q : Queue} {t : DrainTurn} (h : Drains reporter limit q t) (hq : q.dispatching = true) :
    Flagged reporter limit t.queue t.left := by
  induction h with
  | held | emptied | broke => exact Or.inl ⟨rfl, rfl⟩
  | waits q e rest time o hs hr hc ht => exact Or.inr ⟨_, rfl, hq, by simp [Drain.Awaits, hc]⟩
  | goesOn q e rest o t hs hr hc ho h ih => exact ih ((dispatching_finish ho).trans hq)

theorem turn_flagged {q : Queue} (d : Drain) (hq : q.dispatching = true) :
    Flagged reporter limit (q.turn reporter limit d).queue (q.turn reporter limit d).left := by
  rcases turn_cases reporter limit q d with ⟨-, h⟩ | ⟨e, -, h⟩ | ⟨e, o, t, -, ho, ht, h⟩
  · exact h.flagged hq
  · rw [h]; exact Or.inl ⟨rfl, rfl⟩
  · rw [h]; exact ht.flagged ((dispatching_finish ho).trans hq)

/-- the reporter broke down, and that is the last that happened -/
def BreaksDown (notes : List Note) : Prop := ∃ ns e, notes = ns ++ [.ended e .brokeDown]

theorem BreaksDown.append {ns : List Note} (h : BreaksDown ns) (ms : List Note) : BreaksDown (ms ++ ns) := by
  obtain ⟨ls, e, rfl⟩ := h
  exact ⟨ms ++ ls, e, by simp⟩

theorem Drains.stops {q : Queue} {t : DrainTurn} (h : Drains reporter limit q t) (hl : t.left = []) :
    0 < q.sections ∨ t.queue.stack.entries = [] ∨ BreaksDown t.notes := by
  induction h with
  | held q hs => exact Or.inl hs
  | emptied q hs hq => exact Or.inr (Or.inl hq)
  | broke q e rest hs hq hc => exact Or.inr (Or.inr ⟨[.started e], e, rfl⟩)
  | waits => simp [DrainTurn.left] at hl
  | goesOn q e rest o t hs hq hc ho h ih =>
    rcases ih hl with h | h | h
    · exact Or.inl (by simpa [Queue.handOver] using h)
    · exact Or.inr (Or.inl h)
    · exact Or.inr (Or.inr (h.append [.started e, .ended e o]))

/-- a drain stops only because a section is open, nothing waits, or the reporter broke down -/
theorem turn_stops {q : Queue} {d : Drain} (hl : (q.turn reporter limit d).left = []) :
    0 < q.sections ∨ (q.turn reporter limit d).queue.stack.entries = [] ∨
      BreaksDown (q.turn reporter limit d).notes := by
  rcases turn_cases reporter limit q d with ⟨-, h⟩ | ⟨e, -, h⟩ | ⟨e, o, t, -, -, ht, h⟩
  · exact h.stops hl
  · rw [h]; exact Or.inr (Or.inr ⟨[], e, rfl⟩)
  · rw [h] at hl ⊢
    rcases ht.stops hl with h | h | h
    · exact Or.inl (by simpa using h)
    · exact Or.inr (Or.inl h)
    · exact Or.inr (Or.inr (h.append [.ended e o]))

/-! ## The notes of a turn -/

theorem Drains.closed {q : Queue} {t : DrainTurn} (h : Drains reporter limit q t) {e : Entry}
    (he : .started e ∈ t.notes) : q.sections = 0 := by
  cases h with
  | held | emptied => simp at he
  | broke | waits | goesOn => assumption

/-- no call starts while a section is open -/
theorem turn_closed {q : Queue} {d : Drain} {e : Entry} (he : .started e ∈ (q.turn reporter limit d).notes) :
    q.sections = 0 := by
  rcases turn_cases reporter limit q d with ⟨-, h⟩ | ⟨e, -, h⟩ | ⟨e, o, t, -, -, ht, h⟩
  · exact h.closed he
  · simp [h] at he
  · rw [h] at he
    have := ht.closed (by simpa using he)
    simpa using this

/-- the queue as its notes tell it: the entries that wait, the newest first, and the calls in flight -/
structure View where
  waiting : List Entry
  calls : List Entry

/-- notes that can come one after the other, from one view to another -/
inductive Follows (reporter : Reporter) (limit : Nat) : View → List Note → View → Prop where
  | done (v : View) : Follows reporter limit v [] v
  | queued (e : Entry) {ws cs : List Entry} {ns : List Note} {v : View}
      (h : Follows reporter limit ⟨e :: ws, cs⟩ ns v) : Follows reporter limit ⟨ws, cs⟩ (.queued e :: ns) v
  | started (e : Entry) {ws : List Entry} {ns : List Note} {v : View}
      (h : Follows reporter limit ⟨ws, [e]⟩ ns v) : Follows reporter limit ⟨e :: ws, []⟩ (.started e :: ns) v
  | ended (e : Entry) {ws : List Entry} {o : Outcome} {ns : List Note} {v : View}
      (ho : o = ((reporter e).under limit).2) (h : Follows reporter limit ⟨ws, []⟩ ns v) :
      Follows reporter limit ⟨ws, [e]⟩ (.ended e o :: ns) v

theorem Follows.append {u v w : View} {ns ms : List Note} (h : Follows reporter limit u ns v)
    (k : Follows reporter limit v ms w) : Follows reporter limit u (ns ++ ms) w := by
  induction h with
  | done => exact k
  | queued e h ih => exact .queued e (ih k)
  | started e h ih => exact .started e (ih k)
  | ended e ho h ih => exact .ended e ho (ih k)

theorem Follows.split {u w : View} {ns ms : List Note} (h : Follows reporter limit u (ns ++ ms) w) :
    ∃ v, Follows reporter limit u ns v ∧ Follows reporter limit v ms w := by
  induction ns generalizing u with
  | nil => exact ⟨u, .done u, h⟩
  | cons n ns ih =>
    cases h with
    | queued e h => obtain ⟨v, h1, h2⟩ := ih h; exact ⟨v, .queued e h1, h2⟩
    | started e h => obtain ⟨v, h1, h2⟩ := ih h; exact ⟨v, .started e h1, h2⟩
    | ended e ho h => obtain ⟨v, h1, h2⟩ := ih h; exact ⟨v, .ended e ho h1, h2⟩

/-- the calls that drains wait for -/
def callsOf (ds : List Drain) : List Entry :=
  ds.filterMap fun d => match d with
    | .start => none
    | .calling e _ => some e

theorem Drains.follows {q : Queue} {t : DrainTurn} (h : Drains reporter limit q t) :
    Follows reporter limit ⟨q.stack.entries, []⟩ t.notes ⟨t.queue.stack.entries, callsOf t.left⟩ := by
  induction h with
  | held | emptied => exact .done _
  | broke q e rest hs hq hc => rw [hq]; exact .started e (.ended e (by simp [hc]) (.done _))
  | waits q e rest time o hs hq hc ht => rw [hq]; exact .started e (.done _)
  | goesOn q e rest o t hs hq hc ho h ih =>
    rw [hq]
    exact .started e (.ended e (by simp [hc]) (by simpa [Queue.handOver, DrainTurn.left] using ih))

theorem turn_follows {q : Queue} {d : Drain} (hd : d.Awaits reporter limit) :
    Follows reporter limit ⟨q.stack.entries, callsOf [d]⟩ (q.turn reporter limit d).notes
      ⟨(q.turn reporter limit d).queue.stack.entries, callsOf (q.turn reporter limit d).left⟩ := by
  rcases turn_cases reporter limit q d with ⟨rfl, h⟩ | ⟨e, rfl, h⟩ | ⟨e, o, t, rfl, -, ht, h⟩
  · exact h.follows
  · rw [h]; exact .ended e hd (.done _)
  · rw [h]
    exact .ended e hd (by simpa [DrainTurn.left] using ht.follows)

end AdConfirm.Dispatch
