import AdConfirm.Tab.Sessions
import Mathlib.Tactic.SplitIfs

/-!
What every operation on the sessions does to the slot of every tab.

An operation changes the slot of its own tab alone. These lemmas say how, so that nothing else has to look into the table
of slots.

- `complete_slot`, `complete_result`: only a completion of the tab's current attempt is accepted; it stores the ads and
  hands back all who waited.
- `take_slot`, `take_isSome`: taking an ad erases it from the map of its tab, and succeeds if it was there.
-/

namespace AdConfirm.Tab.Sessions

variable (s : Sessions)

theorem begin_slot (tab j : String) :
    (s.begin tab).1.slot j = if tab = j then { s.slot j with inFlight := some (s.begin tab).2.attempt } else s.slot j := by
  simp only [begin, countTabs, slot, Table.find?_insert]
  split_ifs with h
  · subst h
    rfl
  · rfl

theorem complete_slot (t : Ticket) (ads : AdMap) (j : String) :
    (s.complete t ads).1.slot j = if s.isCurrent t ∧ t.tab = j then ⟨none, some ads, []⟩ else s.slot j := by
  by_cases hc : s.isCurrent t
  · simp only [complete, hc, if_true, slot, Table.find?_insert, true_and]
    split_ifs <;> rfl
  · simp [complete, hc, slot]

theorem complete_result (t : Ticket) (ads : AdMap) :
    (s.complete t ads).2 = if s.isCurrent t then .ok (s.slot t.tab).pending else .error ⟨t⟩ := by
  unfold complete
  split_ifs <;> rfl

theorem park_result (tab : String) (w : Waiting) :
    (s.park tab w).2 = if (s.slot tab).ads.isSome then .ready else .parked := by
  simp only [park]
  split_ifs <;> rfl

theorem park_slot {tab : String} (w : Waiting) (h : (s.slot tab).ads = none) (j : String) :
    (s.park tab w).1.slot j = if tab = j then { s.slot j with pending := (s.slot j).pending ++ [w] } else s.slot j := by
  simp only [park, h, Option.isSome_none, Bool.false_eq_true, if_false, countTabs]
  simp only [slot, Table.find?_insert]
  split_ifs with hj
  · subst hj
    simp only [slot] at h
    simp [h]
  · rfl

/-- a request for a tab whose ads are known changes nothing -/
theorem park_ready {tab : String} (w : Waiting) (h : (s.slot tab).ads.isSome) : (s.park tab w).1 = s := by
  simp only [park, h, if_true]

theorem take_slot (tab id j : String) :
    (s.take tab id).1.slot j =
      if tab = j then { s.slot j with ads := (s.slot j).ads.map fun ads => ads.erase id } else s.slot j := by
  -- where nothing is taken, there is nothing to erase
  have kept (h : ((s.slot tab).ads.map fun ads => ads.erase id) = (s.slot tab).ads) :
      s.slot j = if tab = j then { s.slot j with ads := (s.slot j).ads.map fun ads => ads.erase id } else s.slot j := by
    split_ifs with hj
    · subst hj
      rw [h]
    · rfl
  unfold take
  split
  · next ha => exact kept (by simp [ha])
  · next ads ha =>
    split
    · next hf => exact kept (by simp [ha, Table.erase_of_find?_eq_none hf])
    · simp only [slot, Table.find?_insert]
      split_ifs with hj
      · subst hj
        simp only [slot] at ha
        simp [ha]
      · rfl

theorem take_isSome (tab id : String) : (s.take tab id).2.isSome = s.containsAd tab id := by
  unfold take containsAd
  split
  · next ha => simp [ha]
  · next ads ha =>
    split
    · next hf => simp [ha, Table.contains, hf]
    · next hf => simp [ha, Table.contains, hf]

/-- a refusal leaves everything as it was -/
theorem take_of_none {tab id : String} (h : (s.take tab id).2 = none) : (s.take tab id).1 = s := by
  revert h
  unfold take
  split
  · exact fun _ => rfl
  · split
    · exact fun _ => rfl
    · simp

theorem reset_slot (tab j : String) : (s.reset tab).1.slot j = if tab = j then Slot.fresh else s.slot j := by
  unfold reset
  split
  · next hf =>
    split_ifs with hj
    · subst hj
      simp [slot, hf]
    · rfl
  · simp only [slot, countTabs, Table.find?_erase]
    split_ifs <;> rfl

theorem reset_dropped (tab : String) : (s.reset tab).2 = (s.slot tab).pending := by
  unfold reset
  split
  · next hf => simp [slot, hf, Slot.fresh]
  · next hf => simp [slot, hf]

end AdConfirm.Tab.Sessions
