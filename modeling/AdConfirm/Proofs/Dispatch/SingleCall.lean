import AdConfirm.Proofs.Dispatch.Play

/-!
One call of the reporter at a time, and none that starts in a section.

- `inFlight`: the calls in flight after some notes, those that have started and not ended.
- `Follows.inFlight`, `Follows.calls_le`: notes that follow each other lead to the calls in flight, at most one.
- `act_closed`: an act during which a call starts finds no section open and opens none.
- `one_call_at_a_time`: at every moment at most one call is in flight; a call starts only when the one before it has
  ended, that is returned, been cut off at the limit, or broken down; and no call starts while a section is open.
-/

namespace AdConfirm.Dispatch

/-- what a note does to the calls in flight -/
def Note.onCalls (cs : List Entry) : Note → List Entry
  | .queued _ => cs
  | .started e => cs ++ [e]
  | .ended e _ => cs.erase e

/-- the calls in flight after some notes: those that have started and not ended -/
def inFlight (ns : List Note) : List Entry := ns.foldl Note.onCalls []

variable {reporter : Reporter} {limit : Nat}

theorem Follows.foldl_onCalls {v w : View} {ns : List Note} (h : Follows reporter limit v ns w) :
    ns.foldl Note.onCalls v.calls = w.calls := by
  induction h with
  | done => rfl
  | queued e h ih => exact ih
  | started e h ih => exact ih
  | ended e ho h ih => simpa [Note.onCalls] using ih

theorem Follows.inFlight {ws : List Entry} {w : View} {ns : List Note} (h : Follows reporter limit ⟨ws, []⟩ ns w) :
    inFlight ns = w.calls := h.foldl_onCalls

theorem Follows.calls_le {v w : View} {ns : List Note} (h : Follows reporter limit v ns w)
    (hv : v.calls.length ≤ 1) : w.calls.length ≤ 1 := by
  induction h with
  | done => exact hv
  | queued e h ih => exact ih hv
  | started e h ih => exact ih (by simp)
  | ended e ho h ih => exact ih (by simp)

/-- a call starts only when none is in flight -/
theorem Follows.at_start {v w : View} {e : Entry} {ns : List Note}
    (h : Follows reporter limit v (.started e :: ns) w) : v.calls = [] := by
  cases h with
  | started => rfl

/-- what ends is the call in flight, and as the reporter has it -/
theorem Follows.at_end {v w : View} {e : Entry} {o : Outcome} {ns : List Note}
    (h : Follows reporter limit v (.ended e o :: ns) w) : v.calls = [e] ∧ o = ((reporter e).under limit).2 := by
  cases h with
  | ended _ ho => exact ⟨rfl, ho⟩

namespace Machine

/-- an act during which a call starts finds no section open, and opens none -/
theorem act_closed {m : Machine} (h : Inv reporter limit m) {a : Act} {notes : List Note} {e : Entry}
    (hn : (m.act reporter limit a).history = m.history ++ notes) (he : .started e ∈ notes) :
    true ∉ m.guards ∧ (m.act reporter limit a).guards = m.guards := by
  obtain ⟨ns, ha⟩ := act_acted h a
  rw [ha.history] at hn
  rw [← List.append_cancel_left hn] at he
  exact (ha.started e he).2

/-- **One call at a time.** Every run is a play. After every play, and at every earlier point of its history, at most one
call is in flight, which is the one that the drain waits for; a call starts only when none is in flight; what ends is the
call in flight, and it ends as the reporter has it under the limit: it returns, is cut off, or breaks down. An act during
which a call starts finds no section open and opens none. -/
theorem one_call_at_a_time (reporter : Reporter) (limit : Nat) :
    (∀ ops, ∃ acts, run reporter limit ops = play reporter limit acts ∧
      acts.filter Act.isCommand = ops.filterMap Op.act?) ∧
    ∀ acts, let m := play reporter limit acts
      m.calls = inFlight m.history ∧
      (∀ before after, m.history = before ++ after → (inFlight before).length ≤ 1) ∧
      (∀ before e after, m.history = before ++ .started e :: after → inFlight before = []) ∧
      (∀ before e o after, m.history = before ++ .ended e o :: after →
        inFlight before = [e] ∧ o = ((reporter e).under limit).2) ∧
      ∀ a notes e, (m.act reporter limit a).history = m.history ++ notes → .started e ∈ notes →
        true ∉ m.guards ∧ (m.act reporter limit a).guards = m.guards := by
  refine ⟨run_eq_play reporter limit, ?_⟩
  intro acts m
  have hinv := play_inv reporter limit acts
  refine ⟨hinv.follows.inFlight.symm, ?_, ?_, ?_, fun a notes e hn he => act_closed hinv hn he⟩
  · intro before after heq
    obtain ⟨v, h1, -⟩ := (heq ▸ hinv.follows).split
    rw [h1.inFlight]
    exact h1.calls_le (by simp)
  · intro before e after heq
    obtain ⟨v, h1, h2⟩ := (heq ▸ hinv.follows).split
    rw [h1.inFlight]
    exact h2.at_start
  · intro before e o after heq
    obtain ⟨v, h1, h2⟩ := (heq ▸ hinv.follows).split
    rw [h1.inFlight]
    exact h2.at_end

end Machine

end AdConfirm.Dispatch
