import AdConfirm.Proofs.Tab.Taken

/-!
The requests that wait on a tab.

A request waits while the ads of its tab are not known. It comes to an end for all that wait on a tab at once: the first
ingestion that is accepted hands them back, a reset drops them.

- `step_line`: what an operation does to the line of a tab.
- `pending_of_hasAds`: nobody waits on a tab whose ads are known.
- `line_run`: whoever was parked was let go or waits, in order of arrival.
- `parked_once`: what becomes of each request that is offered.
-/

namespace AdConfirm.Tab.Sessions

/-- the requests that an operation lets wait on a tab -/
def parks (tab : String) (before : List Op) : Op → List Waiting
  | .park j w => if j = tab ∧ ((run before).park j w).2 = .parked then [w] else []
  | _ => []

/-- the requests of a tab that an operation hands back, to be resolved -/
def handsBack (tab : String) (before : List Op) : Op → List Waiting
  | .complete t ads =>
    match ((run before).complete t ads).2 with
    | .ok released => if t.tab = tab then released else []
    | .error _ => []
  | _ => []

/-- the requests of a tab that an operation drops, which nobody will answer -/
def drops (tab : String) (before : List Op) : Op → List Waiting
  | .reset j => if j = tab then ((run before).reset j).2 else []
  | _ => []

/-- the requests of a tab that an operation lets go -/
def letsGo (tab : String) (before : List Op) (o : Op) : List Waiting := handsBack tab before o ++ drops tab before o

/-- nobody waits on the tab any longer: an ingestion of it is accepted, or it is reset -/
def Clears (tab : String) (before : List Op) (o : Op) : Prop := Ingests tab before o ∨ o = .reset tab

/-- a run cut in two where the tab was last cleared, or at its start if it never was -/
structure LastCleared (tab : String) (before after : List Op) : Prop where
  cleared : before = [] ∨ ∃ earlier o, before = earlier ++ [o] ∧ Clears tab earlier o
  since : ¬ Ever (fun mid o => Clears tab (before ++ mid) o) after

/-! ## One operation -/

/-- An operation lets everybody go who waits on the tab, or lets nobody go and may let others wait behind them. -/
inductive LineStep (ops : List Op) (tab : String) (o : Op) : Prop where
  | cleared (clears : Clears tab ops o) (parks_eq : parks tab ops o = [])
      (letsGo_eq : letsGo tab ops o = ((run ops).slot tab).pending)
      (line_eq : (((run ops).step o).slot tab).pending = [])
  | kept (not_clears : ¬ Clears tab ops o) (letsGo_eq : letsGo tab ops o = [])
      (line_eq : (((run ops).step o).slot tab).pending = ((run ops).slot tab).pending ++ parks tab ops o)

theorem accepted_result {s : Sessions} {t : Ticket} {ads : AdMap} (h : s.Accepts t ads) :
    (s.complete t ads).2 = .ok (s.slot t.tab).pending := by
  rw [complete_result, if_pos (isCurrent_iff.2 (accepts_iff.1 h))]

theorem park_parked_iff {s : Sessions} {tab : String} {w : Waiting} :
    (s.park tab w).2 = .parked ↔ s.hasAds tab = false := by
  rw [park_result, hasAds]
  split_ifs with h <;> simp [h]

theorem reset_abandoned (s : Sessions) (tab : String) :
    (s.reset tab).1.metrics.abandonedRequests = s.metrics.abandonedRequests + (s.slot tab).pending.length := by
  unfold reset
  split
  · next hf => simp [slot, hf, Slot.fresh]
  · next hf => simp [slot, hf, countTabs]

theorem step_line (ops : List Op) (tab : String) (o : Op) : LineStep ops tab o := by
  have not_clears (h : ∀ t ads, o ≠ .complete t ads) (hr : ∀ j, o ≠ .reset j) : ¬ Clears tab ops o := by
    rintro (hi | rfl)
    · exact not_ingests_of_ne_complete h hi
    · exact hr tab rfl
  cases o with
  | begin j =>
    refine .kept (not_clears (by simp) (by simp)) rfl ?_
    simp only [step, begin_slot, parks, List.append_nil]
    split_ifs <;> rfl
  | complete t ads =>
    by_cases ha : (run ops).Accepts t ads
    · by_cases ht : t.tab = tab
      · subst ht
        refine .cleared (.inl ⟨ads, t, rfl, rfl, ha⟩) rfl ?_ ?_
        · simp [letsGo, handsBack, drops, accepted_result ha]
        · rw [step, complete_slot, if_pos ⟨isCurrent_iff.2 (accepts_iff.1 ha), rfl⟩]
      · refine .kept ?_ (by simp [letsGo, handsBack, drops, accepted_result ha, ht]) ?_
        · rintro (⟨_, _, heq, rfl, -⟩ | heq)
          · cases heq
            exact ht rfl
          · cases heq
        · rw [(run ops).step_slot (o := .complete t ads) ht]
          simp [parks]
    · refine .kept ?_ (by simp [letsGo, handsBack, drops, complete_of_not_accepts ha]) ?_
      · rintro (⟨_, _, heq, -, haccepts⟩ | heq)
        · cases heq
          exact ha haccepts
        · cases heq
      · rw [step, complete_of_not_accepts ha]
        simp [parks, refusing, slot]
  | park j w =>
    refine .kept (not_clears (by simp) (by simp)) rfl ?_
    cases hads : ((run ops).slot j).ads with
    | none =>
      have hparked : ((run ops).park j w).2 = .parked := park_parked_iff.2 (by simp [hasAds, hads])
      simp only [step, (run ops).park_slot w hads, parks, hparked, and_true]
      split_ifs <;> simp
    | some ads =>
      have hready : ((run ops).park j w).2 ≠ .parked := fun h => by
        simpa [hasAds, hads] using park_parked_iff.1 h
      simp [step, (run ops).park_ready w (by rw [hads]; rfl), parks, hready]
  | take j id =>
    refine .kept (not_clears (by simp) (by simp)) rfl ?_
    simp only [step, take_slot, parks, List.append_nil]
    split_ifs <;> rfl
  | reset j =>
    by_cases hj : j = tab
    · subst hj
      refine .cleared (.inr rfl) rfl ?_ ?_
      · simp [letsGo, handsBack, drops, reset_dropped]
      · simp [step, reset_slot, Slot.fresh]
    · refine .kept ?_ (by simp [letsGo, handsBack, drops, hj]) ?_
      · rintro (hi | heq)
        · exact not_ingests_of_ne_complete (by simp) hi
        · cases heq
          exact hj rfl
      · rw [(run ops).step_slot (o := .reset j) hj]
        simp [parks]

/-! ## Runs -/

/-- Nobody waits on a tab whose ads are known. -/
theorem pending_of_hasAds (ops : List Op) (tab : String) (h : (run ops).hasAds tab = true) :
    ((run ops).slot tab).pending = [] := by
  induction ops using List.reverseRecOn with
  | nil => rfl
  | append_singleton ops o ih =>
    rw [run_snoc] at h ⊢
    cases step_line ops tab o with
    | cleared _ _ _ line_eq => exact line_eq
    | kept not_clears _ line_eq =>
      obtain ⟨hads, -⟩ := ((step_hasAds ops o tab).1 h).resolve_left fun hi => not_clears (.inl hi)
      -- and as its ads are known, nobody comes to wait on it either
      have hparks : parks tab ops o = [] := by
        cases o with
        | park j w =>
          refine if_neg ?_
          rintro ⟨rfl, hparked⟩
          rw [park_parked_iff.1 hparked] at hads
          cases hads
        | _ => rfl
      rw [line_eq, ih hads, hparks, List.append_nil]

/-- Those who waited, and after them those who came: they were let go in this order, or wait in it. -/
theorem line_run (tab : String) (before after : List Op) :
    yields (letsGo tab) before after ++ ((run (before ++ after)).slot tab).pending =
      ((run before).slot tab).pending ++ yields (parks tab) before after := by
  induction after using List.reverseRecOn with
  | nil => simp [yields]
  | append_singleton after o ih =>
    rw [← List.append_assoc, run_snoc, yields_snoc, yields_snoc]
    cases step_line (before ++ after) tab o with
    | cleared _ parks_eq letsGo_eq line_eq => rw [parks_eq, letsGo_eq, line_eq, List.append_nil, List.append_nil, ih]
    | kept _ letsGo_eq line_eq => rw [letsGo_eq, line_eq, List.append_nil, ← List.append_assoc, ih, List.append_assoc]

/-- While the tab is not cleared, the line only grows at its end. -/
theorem line_of_not_cleared {tab : String} {before after : List Op}
    (h : ¬ Ever (fun mid o => Clears tab (before ++ mid) o) after) :
    ((run (before ++ after)).slot tab).pending = ((run before).slot tab).pending ++ yields (parks tab) before after := by
  have hnone : yields (letsGo tab) before after = [] := by
    induction after using List.reverseRecOn with
    | nil => rfl
    | append_singleton after o ih =>
      rw [ever_snoc, not_or] at h
      rw [yields_snoc, ih h.2]
      cases step_line (before ++ after) tab o with
      | cleared clears => exact absurd clears h.1
      | kept _ letsGo_eq => simpa using letsGo_eq
  simpa [hnone] using line_run tab before after

theorem line_of_cleared {tab : String} {before : List Op}
    (h : before = [] ∨ ∃ earlier o, before = earlier ++ [o] ∧ Clears tab earlier o) :
    ((run before).slot tab).pending = [] := by
  rcases h with rfl | ⟨earlier, o, rfl, hc⟩
  · rfl
  · rw [run_snoc]
    cases step_line earlier tab o with
    | cleared _ _ _ line_eq => exact line_eq
    | kept not_clears => exact absurd hc not_clears

/-- Who waits on a tab came since it was last cleared. -/
theorem LastCleared.line {tab : String} {before after : List Op} (h : LastCleared tab before after) :
    ((run (before ++ after)).slot tab).pending = yields (parks tab) before after := by
  rw [line_of_not_cleared h.since, line_of_cleared h.cleared, List.nil_append]

theorem exists_lastCleared (ops : List Op) (tab : String) :
    ∃ before after, ops = before ++ after ∧ LastCleared tab before after := by
  induction ops using List.reverseRecOn with
  | nil => exact ⟨[], [], rfl, .inl rfl, not_ever_nil⟩
  | append_singleton ops o ih =>
    by_cases hc : Clears tab ops o
    · exact ⟨ops ++ [o], [], by simp, .inr ⟨ops, o, rfl, hc⟩, not_ever_nil⟩
    · obtain ⟨before, after, rfl, cleared, since⟩ := ih
      refine ⟨before, after ++ [o], by simp, cleared, fun h => ?_⟩
      exact (ever_snoc.1 h).elim hc since

/-! ## What becomes of a request -/

section Fate

variable (before after : List Op) (tab : String) (w : Waiting)

/-- the line that a request which came to wait is part of: who was there before it, the request, and who came behind it -/
def lineWith : List Waiting :=
  ((run before).slot tab).pending ++ w :: yields (parks tab) (before ++ [.park tab w]) after

/-- the tab of a request that came to wait is cleared -/
def ClearsAfter (mid : List Op) (o : Op) : Prop := Clears tab (before ++ .park tab w :: mid) o

/-- the request waits in the line of its tab, which was not cleared since -/
def Waits : Prop :=
  ¬ Ever (ClearsAfter before tab w) after ∧
    ((run (before ++ .park tab w :: after)).slot tab).pending = lineWith before after tab w

/-- the tab was first cleared by an ingestion, and its completion handed the request back -/
def HandedBack : Prop :=
  ∃ mid t ads rest, First (ClearsAfter before tab w) after mid (.complete t ads) rest ∧ t.tab = tab ∧
    ((run (before ++ .park tab w :: mid)).complete t ads).2 = .ok (lineWith before mid tab w)

/-- the tab was first cleared by a reset, and this dropped the request -/
def Dropped : Prop :=
  ∃ mid rest, First (ClearsAfter before tab w) after mid (.reset tab) rest ∧
    ((run (before ++ .park tab w :: mid)).reset tab).2 = lineWith before mid tab w

variable {before after tab w}

theorem line_of_not_cleared_after (hp : ((run before).park tab w).2 = .parked)
    (h : ¬ Ever (ClearsAfter before tab w) after) :
    ((run (before ++ .park tab w :: after)).slot tab).pending = lineWith before after tab w := by
  have hsince : ¬ Ever (fun mid o => Clears tab (before ++ [.park tab w] ++ mid) o) after := by
    simp only [List.append_assoc, List.singleton_append]
    exact h
  have hline := line_of_not_cleared hsince
  have hads : ((run before).slot tab).ads = none := by simpa [hasAds] using park_parked_iff.1 hp
  have hslot : ((run (before ++ [.park tab w])).slot tab).pending = ((run before).slot tab).pending ++ [w] := by
    rw [run_snoc, step, park_slot _ w hads, if_pos rfl]
  simpa [lineWith, hslot] using hline

theorem fate (hp : ((run before).park tab w).2 = .parked) :
    Waits before after tab w ∨ HandedBack before after tab w ∨ Dropped before after tab w := by
  by_cases h : Ever (ClearsAfter before tab w) after
  · obtain ⟨mid, o, rest, hfirst⟩ := exists_first h
    have hline := line_of_not_cleared_after hp hfirst.not_before
    rcases hfirst.here with ⟨ads, t, rfl, ht, ha⟩ | rfl
    · exact .inr (.inl ⟨mid, t, ads, rest, hfirst, ht, by rw [accepted_result ha, ht, hline]⟩)
    · exact .inr (.inr ⟨mid, rest, hfirst, by rw [reset_dropped, hline]⟩)
  · exact .inl ⟨h, line_of_not_cleared_after hp h⟩

theorem Waits.not_handedBack (h : Waits before after tab w) : ¬ HandedBack before after tab w := by
  rintro ⟨mid, t, ads, rest, hfirst, -⟩
  exact h.1 hfirst.ever

theorem Waits.not_dropped (h : Waits before after tab w) : ¬ Dropped before after tab w := by
  rintro ⟨mid, rest, hfirst, -⟩
  exact h.1 hfirst.ever

theorem HandedBack.not_dropped (h : HandedBack before after tab w) : ¬ Dropped before after tab w := by
  obtain ⟨mid, t, ads, rest, hfirst, -⟩ := h
  rintro ⟨mid', rest', hfirst', -⟩
  have heq := (hfirst.unique hfirst').2.1
  cases heq

end Fate

/-- **A request waits, is handed back once, or is dropped.** In every run: nobody waits on a tab whose ads are known. A
request that is offered is handed straight back exactly if the ads of its tab are known then, and nothing changes. Every
other one is from then on in exactly one of three conditions: it waits in the line of its tab, or the first completion of the
tab that was accepted handed it back, or a reset of the tab dropped it. No request is in two places: those whom the accepted
completions and the resets of a tab let go, one after the other, and then those who wait, are those who came to wait on the
tab, in order of arrival. And whenever an ingestion of the tab is accepted, its completion hands back precisely those who came
since the tab was last reset or had an ingestion accepted, or since the start; a reset drops precisely those. -/
theorem parked_once (ops : List Op) (tab : String) :
    ((run ops).hasAds tab = true → ((run ops).slot tab).pending = []) ∧
    (∀ w, (((run ops).park tab w).2 = .ready ↔ (run ops).hasAds tab = true) ∧
      (((run ops).park tab w).2 = .ready → ((run ops).park tab w).1 = run ops)) ∧
    (∀ before w after, ops = before ++ .park tab w :: after → ((run before).park tab w).2 = .parked →
      (Waits before after tab w ∧ ¬ HandedBack before after tab w ∧ ¬ Dropped before after tab w) ∨
        (¬ Waits before after tab w ∧ HandedBack before after tab w ∧ ¬ Dropped before after tab w) ∨
        (¬ Waits before after tab w ∧ ¬ HandedBack before after tab w ∧ Dropped before after tab w)) ∧
    yields (letsGo tab) [] ops ++ ((run ops).slot tab).pending = yields (parks tab) [] ops ∧
    (∃ before after, ops = before ++ after ∧ LastCleared tab before after) ∧
    ∀ before after, ops = before ++ after → LastCleared tab before after →
      ((run ops).slot tab).pending = yields (parks tab) before after ∧
      (∀ t ads, t.tab = tab → (run ops).Accepts t ads → ((run ops).complete t ads).2 = .ok (yields (parks tab) before after)) ∧
      ((run ops).reset tab).2 = yields (parks tab) before after ∧
      ((run ops).reset tab).1.metrics.abandonedRequests =
        (run ops).metrics.abandonedRequests + (yields (parks tab) before after).length := by
  refine ⟨pending_of_hasAds ops tab, fun w => ⟨?_, fun h => ?_⟩, ?_, ?_, exists_lastCleared ops tab, ?_⟩
  · rw [park_result, hasAds]
    split_ifs with h <;> simp [h]
  · refine park_ready _ w ?_
    by_contra hn
    rw [park_result, if_neg hn] at h
    cases h
  · rintro before w after rfl hp
    have hfate : Waits before after tab w ∨ HandedBack before after tab w ∨ Dropped before after tab w := fate hp
    rcases hfate with h | h | h
    · exact .inl ⟨h, h.not_handedBack, h.not_dropped⟩
    · exact .inr (.inl ⟨fun hw => hw.not_handedBack h, h, h.not_dropped⟩)
    · exact .inr (.inr ⟨fun hw => hw.not_dropped h, fun hb => hb.not_dropped h, h⟩)
  · exact line_run tab [] ops
  · rintro before after rfl hlast
    have hline := hlast.line
    refine ⟨hline, fun t ads ht ha => ?_, ?_, ?_⟩
    · rw [accepted_result ha, ht, hline]
    · rw [reset_dropped, hline]
    · rw [← hline, reset_abandoned]

end AdConfirm.Tab.Sessions
