import AdConfirm.Proofs.Pipeline.Fetch

/-!
The clock of a pipeline.

Only rearranging the tasks sets the clock, so events between two such stand at one time.

- `perform_now`: which events leave the clock alone.
- `Forward`: events in which the clock is never set back. `Forward.now_le`: then what comes later is not earlier.
-/

namespace AdConfirm.Pipeline

variable {x : Setup} {p : Pipeline} {e : Event} {es fs : List Event}

/-- Only rearranging the tasks sets the clock. -/
theorem perform_now (h : ∀ a, e ≠ .arrange a) : (perform x p e).agenda.now = p.agenda.now := by
  cases hstirs : e.stirs with
  | false => exact now_congr (perform_underway x p hstirs).1
  | true =>
    cases e with
    | arrange a => exact absurd rfl (h a)
    | ask t => rfl
    | arrive t a => exact congrArg Agenda.now (arrive_frame x p t a).2
    | release tab =>
      have hclock := congrArg Agenda.now (p.release_underway tab)
      cases hpick : (p.source.release tab).2 <;> (rw [hpick] at hclock; exact hclock)
    | _ => cases hstirs

/-- the clock is not set back by any of the events -/
def Forward (x : Setup) : Pipeline → List Event → Prop
  | _, [] => True
  | p, e :: es => p.agenda.now ≤ (perform x p e).agenda.now ∧ Forward x (perform x p e) es

theorem forward_append : Forward x p (es ++ fs) ↔ Forward x p es ∧ Forward x (play x p es) fs := by
  induction es generalizing p with
  | nil => exact ⟨fun h => ⟨trivial, h⟩, And.right⟩
  | cons e es ih => rw [List.cons_append, Forward, Forward, ih, play_cons, and_assoc]

theorem Forward.now_le (h : Forward x p es) : p.agenda.now ≤ (play x p es).agenda.now := by
  induction es generalizing p with
  | nil => exact le_rfl
  | cons e es ih => exact h.1.trans (ih h.2)

/-- Calls from outside leave the clock alone. -/
theorem forward_of_call (h : ∀ e ∈ es, ∀ a, e ≠ .arrange a) : Forward x p es := by
  induction es generalizing p with
  | nil => trivial
  | cons e es ih =>
    obtain ⟨he, hes⟩ := List.forall_mem_cons.1 h
    exact ⟨(perform_now he).ge, ih hes⟩

end AdConfirm.Pipeline
