import AdConfirm.Agenda
import Mathlib.Data.List.Perm.Basic
import Mathlib.Tactic

/-!
What happens to tasks while time passes, one beat after the other.

A beat is the turn of the first ready task, or the clock set to a time. `settle` and `advance` are nothing but beats
(`settle_beats`, `advance_beats`), so whatever a beat preserves they preserve, and what holds at every moment between two
beats can be said of the beats alone.

- `tasks_wakeIf`, `tasks_moveTo`: waking moves tasks into the line and neither makes nor loses one.
- `pick`: the part of an agenda that a reading of its tasks picks out, and how it follows what is done to the whole.
- `nextDue?_le`: the next time that a task waits for is not after that of any task.
-/

namespace AdConfirm

namespace Agenda

variable {τ : Type}

/-- all tasks that have not ended, ready or waiting -/
def tasks (a : Agenda τ) : List τ := a.ready ++ a.asleep.map (·.task)

theorem tasks_spawn (a : Agenda τ) (t : τ) : (a.spawn t).tasks.Perm (a.tasks ++ [t]) := by
  simp only [tasks, spawn, List.append_assoc]
  exact List.Perm.append_left _ List.perm_append_comm

theorem tasks_wakeIf (a : Agenda τ) (p : Sleeper τ → Bool) : (a.wakeIf p).tasks.Perm a.tasks := by
  simp only [tasks, wakeIf, List.append_assoc, ← List.map_append]
  exact List.Perm.append_left _ ((List.filter_append_perm p a.asleep).map _)

theorem tasks_moveTo (a : Agenda τ) (time : Nat) : (a.moveTo time).tasks.Perm a.tasks :=
  tasks_wakeIf { a with now := time } (isDue time)

/-- The next time that a task waits for is not after the time that any task waits for. -/
theorem nextDue?_le {a : Agenda τ} {z : Sleeper τ} {d : Nat} (hz : z ∈ a.asleep) (hd : z.due = some d) (hlt : a.now < d) :
    ∃ next, a.nextDue? = some next ∧ next ≤ d := by
  have hmem : d ∈ (a.asleep.filterMap (·.due)).filter (a.now < ·) :=
    List.mem_filter.2 ⟨List.mem_filterMap.2 ⟨z, hz, hd⟩, by simpa using hlt⟩
  unfold nextDue?
  cases hmin : ((a.asleep.filterMap (·.due)).filter (a.now < ·)).min? with
  | none =>
    rw [List.min?_eq_none_iff.1 hmin] at hmem
    cases hmem
  | some next => exact ⟨next, rfl, (List.min?_eq_some_iff.1 hmin).2 d hmem⟩

/-! ## Some of the tasks -/

variable {σ : Type}

/-- the tasks that a reading picks out, as it reads them -/
def pick (f : τ → Option σ) (a : Agenda τ) : Agenda σ :=
  ⟨a.now, a.ready.filterMap f, a.asleep.filterMap fun z => (f z.task).map (Sleeper.mk z.due)⟩

variable {f : τ → Option σ} {a : Agenda τ}

theorem pick_spawn (t : τ) : (a.spawn t).pick f = { a.pick f with ready := (a.pick f).ready ++ (f t).toList } := by
  cases h : f t <;> simp [pick, spawn, h]

theorem pick_sleepUntil (due : Nat) (t : τ) :
    (a.sleepUntil due t).pick f =
      { a.pick f with asleep := (a.pick f).asleep ++ ((f t).map (Sleeper.mk (some due))).toList } := by
  cases h : f t <;> simp [pick, sleepUntil, h]

theorem pick_sleep {t : τ} (h : f t = none) : (a.sleep t).pick f = a.pick f := by
  simp [pick, sleep, h]

theorem pick_ready {ts : List τ} (h : ts.filterMap f = []) :
    pick f { a with ready := a.ready ++ ts } = a.pick f := by
  simp [pick, h]

theorem filterMap_filter {p : Sleeper τ → Bool} {q : Sleeper σ → Bool} (zs : List (Sleeper τ))
    (h : ∀ z u, f z.task = some u → p z = q ⟨z.due, u⟩) :
    (zs.filter p).filterMap (fun z => (f z.task).map (Sleeper.mk z.due)) =
      (zs.filterMap fun z => (f z.task).map (Sleeper.mk z.due)).filter q := by
  induction zs with
  | nil => rfl
  | cons z zs ih =>
    cases hz : f z.task with
    | none => by_cases hp : p z <;> simp [hp, hz, ih]
    | some u => by_cases hp : p z <;> simp [hp, hz, ih, ← h z u hz]

/-- Waking goes on in the part as in the whole, if it goes by what is picked out. -/
theorem pick_wakeIf {p : Sleeper τ → Bool} {q : Sleeper σ → Bool} (h : ∀ z u, f z.task = some u → p z = q ⟨z.due, u⟩) :
    (a.wakeIf p).pick f = (a.pick f).wakeIf q := by
  have hwoken := filterMap_filter a.asleep h
  have hrest := filterMap_filter (p := fun z => !p z) (q := fun z => !q z) a.asleep fun z u hz => by rw [h z u hz]
  simp only [pick, wakeIf, List.filterMap_append, hrest, ← hwoken, List.map_filterMap, List.filterMap_map]
  congr 3
  funext z
  simp only [Function.comp]
  cases f z.task <;> rfl

/-- Nothing is woken in the part if nothing of it is woken in the whole. -/
theorem pick_wakeIf_none {p : Sleeper τ → Bool} (h : ∀ z u, f z.task = some u → p z = false) :
    (a.wakeIf p).pick f = a.pick f := by
  rw [pick_wakeIf (q := fun _ => false) h]
  simp [wakeIf]

theorem pick_moveTo (time : Nat) : (a.moveTo time).pick f = (a.pick f).moveTo time :=
  pick_wakeIf (a := { a with now := time }) fun _ _ _ => rfl

/-- Dropping tasks is nothing to the part that has none of them. -/
theorem pick_cancel {p : τ → Bool} (h : ∀ t u, f t = some u → p t = false) : (a.cancel p).pick f = a.pick f := by
  have hready : (a.ready.filter fun t => !p t).filterMap f = a.ready.filterMap f := by
    rw [List.filterMap_filter]
    refine List.filterMap_congr fun t _ => ?_
    cases ht : f t with
    | none => simp
    | some u => simp [h t u ht]
  have hasleep : (a.asleep.filter fun z => !p z.task).filterMap (fun z => (f z.task).map (Sleeper.mk z.due)) =
      a.asleep.filterMap fun z => (f z.task).map (Sleeper.mk z.due) := by
    rw [List.filterMap_filter]
    refine List.filterMap_congr fun z _ => ?_
    cases hz : f z.task with
    | none => simp
    | some u => simp [h z.task u hz]
  simp only [pick, cancel, hready, hasleep]

end Agenda

namespace Loop

/-- what happens while time passes: the first ready task takes its turn, or the clock is set -/
inductive Beat where
  | turn
  | moveTo (time : Nat)
  deriving DecidableEq

variable {σ τ : Type} (l : Loop σ τ)

/-- one beat; a turn does nothing when no task is ready -/
def beat (s : σ) : Beat → σ
  | .turn => (l.next? s).getD s
  | .moveTo time => l.moveTo s time

def beats (s : σ) (bs : List Beat) : σ := bs.foldl l.beat s

theorem beats_append (s : σ) (bs cs : List Beat) : l.beats s (bs ++ cs) = l.beats (l.beats s bs) cs :=
  List.foldl_append

theorem runTurns_beats (n : Nat) (s : σ) : ∃ bs, l.runTurns n s = l.beats s bs := by
  induction n generalizing s with
  | zero => exact ⟨[], rfl⟩
  | succ n ih =>
    simp only [runTurns]
    cases hn : l.next? s with
    | none => exact ⟨[], rfl⟩
    | some s' =>
      obtain ⟨bs, hbs⟩ := ih s'
      exact ⟨.turn :: bs, by simp [hbs, beats, beat, hn]⟩

theorem settle_beats (s : σ) : ∃ bs, l.settle s = l.beats s bs := l.runTurns_beats _ s

theorem passTo_beats (instant : Nat) (s : σ) (now : Nat) : ∃ bs, l.passTo instant s now = l.beats s bs := by
  induction s, now using passTo.induct l instant with
  | case1 s now s₁ hd =>
    obtain ⟨bs, hbs⟩ := l.settle_beats s
    refine ⟨bs ++ [.moveTo instant], ?_⟩
    rw [passTo, hd, beats_append, ← hbs]
    rfl
  | case2 s now s₁ d hd hlt ih =>
    obtain ⟨bs, hbs⟩ := l.settle_beats s
    obtain ⟨cs, hcs⟩ := ih
    refine ⟨bs ++ .moveTo d :: cs, ?_⟩
    rw [passTo, hd, beats_append, ← hbs]
    simp only [hlt, and_self, if_true]
    exact hcs
  | case3 s now s₁ d hd hlt =>
    obtain ⟨bs, hbs⟩ := l.settle_beats s
    refine ⟨bs ++ [.moveTo instant], ?_⟩
    rw [passTo, hd, beats_append, ← hbs]
    simp only [hlt, if_false]
    rfl

theorem advance_beats (s : σ) (ms : Nat) : ∃ bs, l.advance s ms = l.beats s bs := by
  obtain ⟨bs, hbs⟩ := l.passTo_beats ((l.agenda s).now + ms) s (l.agenda s).now
  obtain ⟨cs, hcs⟩ := l.settle_beats (l.beats s bs)
  exact ⟨bs ++ cs, by rw [beats_append, ← hcs, ← hbs]; rfl⟩

end Loop

end AdConfirm
