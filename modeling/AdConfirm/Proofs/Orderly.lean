import AdConfirm.Proofs.Agenda

/-!
Beats in good order.

Ready tasks come before the clock: it is set only when no task is ready, and never back. A punctual clock does not go past a
time that a task waits for either. Where turns leave the clock alone and come to an end, `settle` leaves no task ready and time
passes punctually.

- `Settles`: every turn leaves the clock alone and fewer turns to come.
- `settle_punctual`, `passTo_punctual`, `advance_punctual`: settling and passing time are punctual beats.
- `settle_runTurns`: settling takes up where turns before it have left off.
- `Steady`: a turn leaves the line and the clock alone.
- `settle_orderly`, `advance_orderly`: then all of this is beats in good order.
-/

namespace AdConfirm.Loop

variable {σ τ : Type} (l : Loop σ τ)

/-- one beat in good order; a clock that may not be set stands still -/
def orderlyBeat (s : σ) : Beat → σ
  | .turn => l.beat s .turn
  | .moveTo time => if (l.agenda s).isQuiet ∧ (l.agenda s).now ≤ time then l.moveTo s time else s

def orderlyBeats (s : σ) (bs : List Beat) : σ := bs.foldl l.orderlyBeat s

/-- one punctual beat: in good order, and the clock does not go past the next time that a task waits for -/
def punctualBeat (s : σ) : Beat → σ
  | .turn => l.beat s .turn
  | .moveTo time => if (l.agenda s).nextDue?.all (time ≤ ·) then l.orderlyBeat s (.moveTo time) else s

def punctualBeats (s : σ) (bs : List Beat) : σ := bs.foldl l.punctualBeat s

theorem punctualBeats_append (s : σ) (bs cs : List Beat) :
    l.punctualBeats s (bs ++ cs) = l.punctualBeats (l.punctualBeats s bs) cs := List.foldl_append

/-- Punctual beats are beats in good order. -/
theorem punctualBeats_orderly (s : σ) (bs : List Beat) : ∃ cs, l.punctualBeats s bs = l.orderlyBeats s cs := by
  induction bs generalizing s with
  | nil => exact ⟨[], rfl⟩
  | cons b bs ih =>
    obtain ⟨cs, hcs⟩ := ih (l.punctualBeat s b)
    have hcons : l.punctualBeats s (b :: bs) = l.orderlyBeats (l.punctualBeat s b) cs := hcs
    cases b with
    | turn => exact ⟨.turn :: cs, hcons⟩
    | moveTo time =>
      rw [punctualBeat] at hcons
      split at hcons
      · exact ⟨.moveTo time :: cs, hcons⟩
      · exact ⟨cs, hcons⟩

theorem ready_of_next?_eq_none {s : σ} (h : l.next? s = none) : (l.agenda s).ready = [] := by
  unfold next? at h
  split at h
  · assumption
  · cases h

/-- No task takes a turn when none is ready. -/
theorem runTurns_of_quiet (n : Nat) {s : σ} (h : (l.agenda s).ready = []) : l.runTurns n s = s := by
  cases n with
  | zero => rfl
  | succ n => simp [runTurns, next?, h]

theorem runTurns_add (m n : Nat) (s : σ) : l.runTurns (m + n) s = l.runTurns n (l.runTurns m s) := by
  induction m generalizing s with
  | zero => rw [Nat.zero_add, runTurns]
  | succ m ih =>
    rw [Nat.add_right_comm]
    cases hs : l.next? s with
    | none =>
      have hquiet := l.ready_of_next?_eq_none hs
      rw [l.runTurns_of_quiet _ hquiet, l.runTurns_of_quiet _ hquiet, l.runTurns_of_quiet _ hquiet]
    | some s' =>
      simp only [runTurns, hs]
      exact ih s'

/-- a turn leaves the clock alone, and fewer turns to come -/
structure Settles : Prop where
  agenda_withAgenda : ∀ s a, l.agenda (l.withAgenda s a) = a
  now_turn : ∀ s t, (l.agenda (l.turn s t)).now = (l.agenda s).now
  turns_lt : ∀ s s', l.next? s = some s' → l.turns s' < l.turns s

namespace Settles

variable {l} (h : l.Settles)
include h

theorem now_next? {s s' : σ} (hs : l.next? s = some s') : (l.agenda s').now = (l.agenda s).now := by
  unfold next? at hs
  split at hs
  · cases hs
  · obtain rfl := Option.some.inj hs
    rw [h.now_turn, h.agenda_withAgenda]

/-- As many turns as there are to come leave no task ready. -/
theorem runTurns_punctual (n : Nat) (s : σ) (hn : l.turns s ≤ n) :
    (l.agenda (l.runTurns n s)).ready = [] ∧ (l.agenda (l.runTurns n s)).now = (l.agenda s).now ∧
      ∃ bs, l.runTurns n s = l.punctualBeats s bs := by
  induction n generalizing s with
  | zero =>
    cases hs : l.next? s with
    | none => exact ⟨l.ready_of_next?_eq_none hs, rfl, [], rfl⟩
    | some s' =>
      have hlt := h.turns_lt s s' hs
      omega
  | succ n ih =>
    cases hs : l.next? s with
    | none =>
      rw [runTurns, hs]
      exact ⟨l.ready_of_next?_eq_none hs, rfl, [], rfl⟩
    | some s' =>
      have hlt := h.turns_lt s s' hs
      obtain ⟨hquiet, hnow, bs, hbs⟩ := ih s' (by omega)
      simp only [runTurns, hs]
      refine ⟨hquiet, hnow.trans (h.now_next? hs), .turn :: bs, ?_⟩
      simp [punctualBeats, punctualBeat, beat, hs, hbs]

/-- Settling is punctual beats and leaves no task ready; the clock stands still. -/
theorem settle_punctual (s : σ) :
    (l.agenda (l.settle s)).ready = [] ∧ (l.agenda (l.settle s)).now = (l.agenda s).now ∧
      ∃ bs, l.settle s = l.punctualBeats s bs :=
  h.runTurns_punctual _ s le_rfl

/-- Turns taken before settling make no difference to it. -/
theorem settle_runTurns (n : Nat) (s : σ) : l.settle (l.runTurns n s) = l.settle s := by
  have hquiet := (h.settle_punctual s).1
  have hquiet' := (h.settle_punctual (l.runTurns n s)).1
  unfold settle at hquiet hquiet' ⊢
  rw [← l.runTurns_add] at hquiet' ⊢
  -- of two states without ready tasks the one that comes after fewer turns is the other one, too
  rw [← l.runTurns_of_quiet (l.turns s) hquiet', ← l.runTurns_of_quiet (n + l.turns (l.runTurns n s)) hquiet,
    ← l.runTurns_add, ← l.runTurns_add, Nat.add_comm]

/-- Once a loop has settled, its clock may be set up to the next time that a task waits for. -/
theorem moveTo_punctual {s : σ} {time : Nat} (ht : (l.agenda s).now ≤ time)
    (hd : ∀ d, (l.agenda (l.settle s)).nextDue? = some d → time ≤ d) :
    ∃ bs, l.moveTo (l.settle s) time = l.punctualBeats s bs := by
  obtain ⟨hquiet, hnow, bs, hbs⟩ := h.settle_punctual s
  refine ⟨bs ++ [.moveTo time], ?_⟩
  have hall : (l.agenda (l.settle s)).nextDue?.all (time ≤ ·) = true := by simpa [Option.all_eq_true] using hd
  rw [punctualBeats_append, ← hbs]
  simp [punctualBeats, punctualBeat, hall, orderlyBeat, Agenda.isQuiet, hquiet, hnow, ht]

theorem now_moveTo (s : σ) (time : Nat) : (l.agenda (l.moveTo s time)).now = time := by
  rw [moveTo, h.agenda_withAgenda]
  rfl

/-- Letting time pass up to an instant is punctual beats, and leaves the clock there. -/
theorem passTo_punctual (instant : Nat) (s : σ) (now : Nat) (hnow : (l.agenda s).now = now) (hle : now ≤ instant) :
    (l.agenda (l.passTo instant s now)).now = instant ∧ ∃ bs, l.passTo instant s now = l.punctualBeats s bs := by
  induction s, now using passTo.induct l instant with
  | case1 s now s₁ hd =>
    rw [passTo, hd]
    refine ⟨h.now_moveTo _ _, h.moveTo_punctual (hnow ▸ hle) fun d hd' => ?_⟩
    rw [hd] at hd'
    cases hd'
  | case2 s now s₁ d hd hlt ih =>
    rw [passTo, hd]
    simp only [hlt, and_self, if_true]
    have hle : (l.agenda s).now ≤ d := by omega
    obtain ⟨bs, hbs⟩ := h.moveTo_punctual hle fun d' hd' => (Option.some.inj (hd.symm.trans hd')).le
    obtain ⟨hinstant, cs, hcs⟩ := ih (h.now_moveTo s₁ d) (by omega)
    exact ⟨hinstant, bs ++ cs, by rw [punctualBeats_append, ← hbs]; exact hcs⟩
  | case3 s now s₁ d hd hlt =>
    rw [passTo, hd]
    simp only [hlt, if_false]
    refine ⟨h.now_moveTo _ _, h.moveTo_punctual (hnow ▸ hle) fun d' hd' => ?_⟩
    obtain rfl := Option.some.inj (hd.symm.trans hd')
    have hclock := (h.settle_punctual s).2.1
    have hafter : (l.agenda (l.settle s)).now < d := Agenda.lt_of_nextDue? hd
    omega

/-- Letting time pass is punctual beats, and leaves no task ready. -/
theorem advance_punctual (s : σ) (ms : Nat) :
    (l.agenda (l.advance s ms)).ready = [] ∧ (l.agenda (l.advance s ms)).now = (l.agenda s).now + ms ∧
      ∃ bs, l.advance s ms = l.punctualBeats s bs := by
  obtain ⟨hinstant, bs, hbs⟩ := h.passTo_punctual ((l.agenda s).now + ms) s (l.agenda s).now rfl (Nat.le_add_right _ _)
  obtain ⟨hquiet, hnow, cs, hcs⟩ := h.settle_punctual (l.passTo ((l.agenda s).now + ms) s (l.agenda s).now)
  refine ⟨hquiet, hnow.trans hinstant, bs ++ cs, ?_⟩
  rw [punctualBeats_append, ← hbs, ← hcs]
  rfl

end Settles

/-- a turn neither makes a task ready nor touches the clock, and every ready task has its turn when the loop settles -/
structure Steady : Prop where
  agenda_withAgenda : ∀ s a, l.agenda (l.withAgenda s a) = a
  ready_turn : ∀ s t, (l.agenda (l.turn s t)).ready = (l.agenda s).ready
  now_turn : ∀ s t, (l.agenda (l.turn s t)).now = (l.agenda s).now
  turns_eq : ∀ s, l.turns s = (l.agenda s).ready.length

namespace Steady

variable {l} (h : l.Steady)
include h

/-- A turn that makes no task ready leaves one less. -/
theorem settles : l.Settles where
  agenda_withAgenda := h.agenda_withAgenda
  now_turn := h.now_turn
  turns_lt s s' hs := by
    unfold next? at hs
    split at hs
    · cases hs
    · next t rest hready =>
      obtain rfl := Option.some.inj hs
      rw [h.turns_eq, h.turns_eq, h.ready_turn, h.agenda_withAgenda, hready]
      exact Nat.lt_succ_self _

/-- Settling is beats in good order and leaves no task ready; the clock stands still. -/
theorem settle_orderly (s : σ) :
    (l.agenda (l.settle s)).ready = [] ∧ (l.agenda (l.settle s)).now = (l.agenda s).now ∧
      ∃ bs, l.settle s = l.orderlyBeats s bs := by
  obtain ⟨hquiet, hnow, bs, hbs⟩ := h.settles.settle_punctual s
  exact ⟨hquiet, hnow, hbs ▸ l.punctualBeats_orderly s bs⟩

/-- Letting time pass is beats in good order, and leaves no task ready. -/
theorem advance_orderly (s : σ) (ms : Nat) :
    (l.agenda (l.advance s ms)).ready = [] ∧ ∃ bs, l.advance s ms = l.orderlyBeats s bs := by
  obtain ⟨hquiet, -, bs, hbs⟩ := h.settles.advance_punctual s ms
  exact ⟨hquiet, hbs ▸ l.punctualBeats_orderly s bs⟩

end Steady

end AdConfirm.Loop
