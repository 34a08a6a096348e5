import AdConfirm.Proofs.History
import AdConfirm.Proofs.Tab.Slot

/-!
Runs of tab sessions: everything that can be done to them, one operation after the other.

- `step_slot`: an operation leaves the slots of all other tabs alone.
- `attempts_run`: the attempts of all tabs are numbered from one, in the order in which they begin.
-/

namespace AdConfirm.Tab

/-- what can be done to the sessions -/
inductive Op where
  | begin (tab : String)
  | complete (t : Ticket) (ads : AdMap)
  | park (tab : String) (w : Waiting)
  | take (tab id : String)
  | reset (tab : String)

def Op.tab : Op → String
  | .begin tab => tab
  | .complete t _ => t.tab
  | .park tab _ => tab
  | .take tab _ => tab
  | .reset tab => tab

def Op.isBegin : Op → Bool
  | .begin _ => true
  | _ => false

def begun (ops : List Op) : Nat := ops.countP Op.isBegin

namespace Sessions

def step (s : Sessions) : Op → Sessions
  | .begin tab => (s.begin tab).1
  | .complete t ads => (s.complete t ads).1
  | .park tab w => (s.park tab w).1
  | .take tab id => (s.take tab id).1
  | .reset tab => (s.reset tab).1

def run (ops : List Op) : Sessions := ops.foldl step empty

theorem run_snoc (ops : List Op) (o : Op) : run (ops ++ [o]) = (run ops).step o := by
  simp [run, List.foldl_append]

variable (s : Sessions)

/-- An operation leaves the slots of all other tabs alone. -/
theorem step_slot {o : Op} {j : String} (h : o.tab ≠ j) : (s.step o).slot j = s.slot j := by
  cases o with
  | begin tab => exact (s.begin_slot tab j).trans (if_neg h)
  | complete t ads => exact (s.complete_slot t ads j).trans (if_neg fun hc => h hc.2)
  | park tab w =>
    cases ha : (s.slot tab).ads with
    | none => exact (s.park_slot w ha j).trans (if_neg h)
    | some ads => exact congrArg (slot · j) (s.park_ready w (by rw [ha]; rfl))
  | take tab id => exact (s.take_slot tab id j).trans (if_neg h)
  | reset tab => exact (s.reset_slot tab j).trans (if_neg h)

theorem step_attempts (o : Op) : (s.step o).attempts = s.attempts + o.isBegin.toNat := by
  cases o with
  | begin tab => rfl
  | complete t ads =>
    simp only [step, complete]
    split_ifs <;> rfl
  | park tab w =>
    simp only [step, park]
    split_ifs <;> rfl
  | take tab id =>
    simp only [step, take]
    split
    · rfl
    · split <;> rfl
  | reset tab =>
    simp only [step, reset]
    split <;> rfl

/-- Attempts are counted from the first one on. -/
theorem attempts_run (ops : List Op) : (run ops).attempts = begun ops := by
  induction ops using List.reverseRecOn with
  | nil => rfl
  | append_singleton ops o ih =>
    rw [run_snoc, step_attempts, ih, begun, begun, List.countP_append]
    cases h : o.isBegin <;> simp [h]

end Sessions

end AdConfirm.Tab
