import Mathlib
import AdConfirm.Proofs.Tab.Parked

/-!
The metrics of the sessions tell what happened.

The gauge of tabs is set by some operations only, the gauge of requests goes up and down, and the rest is added to. None of
them is read again, so that they are right is a fact about whole runs.

- `waiting_of_slot`: what becomes of the number of requests that wait, when one tab changes. `step_waiting`: so an operation
  adds those whom it lets wait, and takes off those whom it lets go.
- `step_metrics`: what an operation counts, told by its own result.
- `metrics_account`: after every run, the metrics are the count of what happened.
-/

namespace AdConfirm.Tab.Sessions

/-- the map of ads that an operation stores -/
def storedMaps (before : List Op) : Op → List AdMap
  | .complete t ads =>
    match ((run before).complete t ads).2 with
    | .ok _ => [ads]
    | .error _ => []
  | _ => []

/-- the completion that an operation has refused -/
def refusals (before : List Op) : Op → List StaleTicket
  | .complete t ads =>
    match ((run before).complete t ads).2 with
    | .ok _ => []
    | .error e => [e]
  | _ => []

/-- what an operation yields for the tab that it is about -/
def own (f : String → List Op → Op → List Waiting) (before : List Op) (o : Op) : List Waiting := f o.tab before o

/-- number of requests that wait, on all tabs together -/
def waiting (s : Sessions) : Nat := (s.slots.keys.map s.pendingCount).sum

/-- An operation lets nobody wait on another tab than its own, and lets nobody go there. -/
theorem other_tab {o : Op} {tab : String} (h : o.tab ≠ tab) (before : List Op) :
    parks tab before o = [] ∧ handsBack tab before o = [] ∧ drops tab before o = [] := by
  cases o with
  | begin j => exact ⟨rfl, rfl, rfl⟩
  | complete t ads =>
    refine ⟨rfl, ?_, rfl⟩
    simp only [handsBack]
    split
    · exact if_neg h
    · rfl
  | park j w => exact ⟨if_neg fun hj => h hj.1, rfl, rfl⟩
  | take j id => exact ⟨rfl, rfl, rfl⟩
  | reset j => exact ⟨rfl, rfl, if_neg h⟩

/-! ## The requests that wait -/

section Waiting

variable {s s' : Sessions} {tab : String}

/-- Nobody waits on a tab of which nothing is known. -/
theorem pendingCount_of_not_mem (h : tab ∉ s.slots.keys) : s.pendingCount tab = 0 := by
  cases hf : s.slots.find? tab with
  | none => simp [pendingCount, slot, hf, Slot.fresh]
  | some v => exact absurd (Table.mem_keys_iff.2 ⟨v, hf⟩) h

theorem waiting_eq_sum {tabs : Finset String} (h : s.slots.keys.toFinset ⊆ tabs) :
    s.waiting = ∑ tab ∈ tabs, s.pendingCount tab := by
  have hout (tab : String) (hn : tab ∉ s.slots.keys.toFinset) : s.pendingCount tab = 0 :=
    pendingCount_of_not_mem fun hm => hn (List.mem_toFinset.2 hm)
  rw [waiting, ← List.sum_toFinset _ s.slots.nodup_keys]
  exact Finset.sum_subset h fun tab _ hn => hout tab hn

/-- When no other tab changes, the number of requests that wait changes as that of the tab does. -/
theorem waiting_of_slot (h : ∀ j, tab ≠ j → s'.slot j = s.slot j) :
    s'.waiting + s.pendingCount tab = s.waiting + s'.pendingCount tab := by
  set tabs := insert tab (s.slots.keys.toFinset ∪ s'.slots.keys.toFinset)
  have hmem : tab ∈ tabs := Finset.mem_insert_self _ _
  have hs : s.waiting = ∑ j ∈ tabs, s.pendingCount j :=
    waiting_eq_sum (Finset.subset_union_left.trans (Finset.subset_insert _ _))
  have hs' : s'.waiting = ∑ j ∈ tabs, s'.pendingCount j :=
    waiting_eq_sum (Finset.subset_union_right.trans (Finset.subset_insert _ _))
  have hothers : ∑ j ∈ tabs.erase tab, s'.pendingCount j = ∑ j ∈ tabs.erase tab, s.pendingCount j := by
    refine Finset.sum_congr rfl ?_
    intro j hj
    rw [pendingCount, pendingCount, h j (Finset.ne_of_mem_erase hj).symm]
  rw [hs, hs', ← Finset.add_sum_erase tabs s.pendingCount hmem, ← Finset.add_sum_erase tabs s'.pendingCount hmem, hothers]
  omega

end Waiting

/-- **An operation adds those whom it lets wait, and takes off those whom it lets go.** -/
theorem step_waiting (ops : List Op) (o : Op) :
    ((run ops).step o).waiting + (own letsGo ops o).length = (run ops).waiting + (own parks ops o).length := by
  have hslot := waiting_of_slot fun j => (run ops).step_slot (o := o) (j := j)
  rw [pendingCount, pendingCount] at hslot
  simp only [own]
  cases step_line ops o.tab o with
  | cleared _ parks_eq letsGo_eq line_eq =>
    rw [line_eq, List.length_nil] at hslot
    rw [letsGo_eq, parks_eq, List.length_nil, hslot]
  | kept _ letsGo_eq line_eq =>
    rw [line_eq, List.length_append] at hslot
    rw [letsGo_eq, List.length_nil]
    omega

/-! ## What an operation counts -/

/-- A tab of which something is known is counted already. -/
theorem size_insert_of_slot {s : Sessions} {tab : String} (h : s.slot tab ≠ Slot.fresh) (v : Slot) :
    (s.slots.insert tab v).size = s.slots.size := by
  refine Table.size_insert_of_contains ?_ v
  cases hf : s.slots.find? tab with
  | none => exact absurd (by rw [slot, hf]; rfl) h
  | some w => simp [Table.contains, hf]

/-- **What an operation counts is told by its result.** -/
theorem step_metrics (ops : List Op) (o : Op) (htabs : (run ops).metrics.tabs = (run ops).tabCount) :
    ((run ops).step o).metrics =
      { tabs := ((run ops).step o).tabCount
        pending := (run ops).metrics.pending + (own parks ops o).length - (own letsGo ops o).length
        adsStored := (run ops).metrics.adsStored + ((storedMaps ops o).map Table.size).sum
        staleCompletions := (run ops).metrics.staleCompletions + (refusals ops o).length
        abandonedRequests := (run ops).metrics.abandonedRequests + (own drops ops o).length } := by
  cases o with
  | begin tab => simp [step, begin, countTabs, tabCount, own, parks, letsGo, handsBack, drops, storedMaps, refusals]
  | complete t ads =>
    by_cases ha : (run ops).Accepts t ads
    · have hcurrent := isCurrent_iff.2 (accepts_iff.1 ha)
      have hknown : (run ops).slot t.tab ≠ Slot.fresh := fun h => by
        have hnumber := accepts_iff.1 ha
        rw [h] at hnumber
        cases hnumber
      have hback : own letsGo ops (.complete t ads) = ((run ops).slot t.tab).pending := by
        simp [own, letsGo, handsBack, drops, Op.tab, accepted_result ha]
      have hmaps : storedMaps ops (.complete t ads) = [ads] := by rw [storedMaps, accepted_result ha]
      have hnone : refusals ops (.complete t ads) = [] := by rw [refusals, accepted_result ha]
      rw [hback, hmaps, hnone]
      simp [step, complete, hcurrent, htabs, tabCount, size_insert_of_slot hknown, own, parks, drops]
    · simp [step, own, parks, letsGo, handsBack, drops, storedMaps, refusals, complete_of_not_accepts ha, refusing, htabs,
        tabCount]
  | park tab w =>
    by_cases hads : ((run ops).slot tab).ads.isSome
    · simp [step, park, hads, ← htabs, own, parks, letsGo, handsBack, drops, storedMaps, refusals]
    · simp [step, park, hads, countTabs, tabCount, Op.tab, own, parks, letsGo, handsBack, drops, storedMaps, refusals]
  | take tab id =>
    have hmetrics : ((run ops).take tab id).1.metrics = (run ops).metrics ∧
        ((run ops).take tab id).1.tabCount = (run ops).tabCount := by
      unfold take
      split
      · exact ⟨rfl, rfl⟩
      · next ads hads =>
        split
        · exact ⟨rfl, rfl⟩
        · exact ⟨rfl, size_insert_of_slot (fun h => by rw [h] at hads; cases hads) _⟩
    simp [step, hmetrics, ← htabs, own, parks, letsGo, handsBack, drops, storedMaps, refusals]
  | reset tab =>
    simp only [own, Op.tab, parks, letsGo, handsBack, drops, storedMaps, refusals, step, reset_dropped, if_true]
    unfold reset
    split
    · next hf => simp [slot, hf, Slot.fresh, ← htabs]
    · next hf => simp [slot, hf, countTabs, tabCount]

/-! ## Runs -/

/-- **The gauge of tabs is their number**, though not every operation sets it. -/
theorem tabs_run (ops : List Op) : (run ops).metrics.tabs = (run ops).tabCount := by
  induction ops using List.reverseRecOn with
  | nil => rfl
  | append_singleton ops o ih => rw [run_snoc, step_metrics ops o ih]

/-- Those who came to wait on any tab wait still, or were let go. -/
theorem waiting_run (ops : List Op) :
    (run ops).waiting + (yields (own letsGo) [] ops).length = (yields (own parks) [] ops).length := by
  induction ops using List.reverseRecOn with
  | nil => rfl
  | append_singleton ops o ih =>
    have hstep := step_waiting ops o
    rw [run_snoc, yields_snoc, yields_snoc, List.length_append, List.length_append, List.nil_append]
    omega

theorem length_letsGo (ops : List Op) :
    (yields (own letsGo) [] ops).length = (yields (own handsBack) [] ops).length + (yields (own drops) [] ops).length := by
  induction ops using List.reverseRecOn with
  | nil => rfl
  | append_singleton ops o ih =>
    have hstep : (own letsGo ops o).length = (own handsBack ops o).length + (own drops ops o).length :=
      List.length_append
    simp only [yields_snoc, List.length_append, List.nil_append]
    omega

/-- **The metrics are the count of what happened.** -/
theorem metrics_run (ops : List Op) :
    (run ops).metrics =
      { tabs := (run ops).tabCount
        pending := (run ops).waiting
        adsStored := ((yields storedMaps [] ops).map Table.size).sum
        staleCompletions := (yields refusals [] ops).length
        abandonedRequests := (yields (own drops) [] ops).length } := by
  induction ops using List.reverseRecOn with
  | nil => rfl
  | append_singleton ops o ih =>
    have hwaits : ((run ops).waiting : Int) + (own parks ops o).length - (own letsGo ops o).length =
        ((run ops).step o).waiting := by
      have hstep := step_waiting ops o
      omega
    rw [run_snoc, step_metrics ops o (tabs_run ops), ih, hwaits]
    simp [yields_snoc]

/-- **The metrics account for everything.** After every run, whatever was accepted, refused or empty in it: the gauge of tabs is
the number of tabs of which something is known; the gauge of requests is the sum of the numbers of those that wait on each of
them, and on no other tab does any wait; the ads counted as stored are those of all maps that were accepted, one after the
other; the late completions counted are those that were refused; and the requests counted as abandoned are those that resets
dropped. And as many requests as ever came to wait, on whatever tab, wait still, were handed back by a completion, or were
dropped by a reset; an operation does this to those of its own tab only. -/
theorem metrics_account (ops : List Op) : let s := run ops
    s.metrics.tabs = s.tabCount ∧
    s.metrics.pending = ((s.slots.keys.map s.pendingCount).sum : Nat) ∧
    s.slots.keys.Nodup ∧ s.slots.keys.length = s.tabCount ∧ (∀ tab ∉ s.slots.keys, s.pendingCount tab = 0) ∧
    s.metrics.adsStored = ((yields storedMaps [] ops).map Table.size).sum ∧
    s.metrics.staleCompletions = (yields refusals [] ops).length ∧
    s.metrics.abandonedRequests = (yields (own drops) [] ops).length ∧
    (yields (own parks) [] ops).length =
      (s.slots.keys.map s.pendingCount).sum + (yields (own handsBack) [] ops).length + (yields (own drops) [] ops).length ∧
    ∀ before o tab, Op.tab o ≠ tab →
      parks tab before o = [] ∧ handsBack tab before o = [] ∧ drops tab before o = [] := by
  intro s
  have hmetrics := metrics_run ops
  have hwaits := waiting_run ops
  rw [length_letsGo, ← Nat.add_assoc] at hwaits
  refine ⟨tabs_run ops, ?_, s.slots.nodup_keys, List.length_map .., fun tab => pendingCount_of_not_mem, ?_, ?_, ?_,
    hwaits.symm, fun before o tab h => other_tab h before⟩
  · exact congrArg Metrics.pending hmetrics
  · exact congrArg Metrics.adsStored hmetrics
  · exact congrArg Metrics.staleCompletions hmetrics
  · exact congrArg Metrics.abandonedRequests hmetrics

end AdConfirm.Tab.Sessions
