import AdConfirm.Proofs.Tab.Attempt
import AdConfirm.Proofs.Table

/-!
The ads of a tab that can still be taken.

The sessions keep one map per tab and erase from it what is taken; a reset forgets it. What can be taken is a fact about the
whole run: it was stored by the latest accepted ingestion of the tab, and since then the tab was not reset and the ad was not
taken.

- `step_ads`: what an operation does to the ads of a tab.
- `hasAds_run`, `ad?_run`: whether the ads of a tab are known, and what it has under an id, read off the run.
- `ads_taken_once`: what is taken, and that it is taken once.
-/

namespace AdConfirm.Tab.Sessions

/-- the ad that a tab has under an id -/
def ad? (s : Sessions) (tab id : String) : Option AdRecord := (s.slot tab).ads.bind fun ads => ads.find? id

/-- an ingestion of the tab is accepted, and stores these ads -/
def Stores (tab : String) (ads : AdMap) (before : List Op) (o : Op) : Prop :=
  ∃ t, o = .complete t ads ∧ t.tab = tab ∧ (run before).Accepts t ads

/-- an ingestion of the tab is accepted -/
def Ingests (tab : String) (before : List Op) (o : Op) : Prop := ∃ ads, Stores tab ads before o

def Takes (tab id : String) (before : List Op) (o : Op) : Prop :=
  o = .take tab id ∧ ((run before).take tab id).2.isSome = true

/-- whoever asks about ads cannot tell the one from the other -/
structure SameAds (s s' : Sessions) : Prop where
  hasAds : ∀ tab, s'.hasAds tab = s.hasAds tab
  adCount : ∀ tab, s'.adCount tab = s.adCount tab
  containsAd : ∀ tab id, s'.containsAd tab id = s.containsAd tab id
  take : ∀ tab id, (s'.take tab id).2 = (s.take tab id).2

section Slots

variable (s : Sessions)

theorem take_result (tab id : String) : (s.take tab id).2 = s.ad? tab id := by
  unfold take ad?
  split
  · next ha => simp [ha]
  · next ads ha =>
    split
    · next hf => simp [ha, hf]
    · next ad hf => simp [ha, hf]

theorem containsAd_eq (tab id : String) : s.containsAd tab id = (s.ad? tab id).isSome := by
  rw [← take_isSome, take_result]

/-- Taking an ad leaves what is under any other id, of its tab or another. -/
theorem take_ad? (tab id j i : String) :
    (s.take tab id).1.ad? j i = if tab = j ∧ id = i then none else s.ad? j i := by
  simp only [ad?, take_slot]
  by_cases hj : tab = j
  · subst hj
    cases ha : (s.slot tab).ads with
    | none => simp
    | some ads => simp [Table.find?_erase]
  · simp [hj]

theorem reset_ad? (tab j i : String) : (s.reset tab).1.ad? j i = if tab = j then none else s.ad? j i := by
  simp only [ad?, reset_slot]
  split_ifs <;> rfl

/-- The number of ads of a tab is that of the ids under which there is one. -/
theorem adCount_eq (tab : String) :
    ∃ ids : List String, ids.Nodup ∧ (∀ id, id ∈ ids ↔ (s.ad? tab id).isSome) ∧
      s.adCount tab = if s.hasAds tab then some ids.length else none := by
  cases ha : (s.slot tab).ads with
  | none => exact ⟨[], List.nodup_nil, by simp [ad?, ha], by simp [adCount, hasAds, ha]⟩
  | some ads =>
    refine ⟨ads.keys, ads.nodup_keys, fun id => ?_, by simp [adCount, hasAds, ha, Table.size, Table.keys]⟩
    have hfound : s.ad? tab id = ads.find? id := by simp [ad?, ha]
    rw [hfound, Option.isSome_iff_exists, Table.keys, List.mem_map]
    constructor
    · rintro ⟨⟨k, ad⟩, hmem, rfl⟩
      exact ⟨ad, Table.mem_entries_iff.1 hmem⟩
    · rintro ⟨ad, had⟩
      exact ⟨(id, ad), Table.mem_entries_iff.2 had, rfl⟩

variable {s}

theorem SameAds.of_ads {s' : Sessions} (h : ∀ tab, (s'.slot tab).ads = (s.slot tab).ads) : SameAds s s' := by
  have had (tab id : String) : s'.ad? tab id = s.ad? tab id := by rw [ad?, ad?, h]
  refine ⟨fun tab => ?_, fun tab => ?_, fun tab id => ?_, fun tab id => ?_⟩
  · simp only [Sessions.hasAds, h]
  · simp only [Sessions.adCount, h]
  · rw [containsAd_eq, containsAd_eq, had]
  · rw [take_result, take_result, had]

theorem begin_sameAds (s : Sessions) (tab : String) : SameAds s (s.begin tab).1 :=
  .of_ads fun j => by
    rw [begin_slot]
    split_ifs <;> rfl

theorem refused_sameAds {t : Ticket} {ads : AdMap} (h : ¬ s.Accepts t ads) : SameAds s (s.complete t ads).1 :=
  .of_ads fun j => by
    rw [complete_of_not_accepts h]
    rfl

theorem park_ads (s : Sessions) (tab : String) (w : Waiting) (j : String) :
    ((s.park tab w).1.slot j).ads = (s.slot j).ads := by
  cases ha : (s.slot tab).ads with
  | none =>
    rw [s.park_slot w ha]
    split_ifs <;> rfl
  | some ads => rw [s.park_ready w (by rw [ha]; rfl)]

end Slots

/-! ## What an operation does to the ads of a tab -/

/-- An operation stores new ads for a tab, forgets them, takes one of them, or leaves them alone. -/
inductive AdsStep (ops : List Op) (tab : String) : Op → Prop where
  | stored {o : Op} {ads : AdMap} (stores : Stores tab ads ops o)
      (ads_eq : (((run ops).step o).slot tab).ads = some ads) : AdsStep ops tab o
  | forgotten (ads_eq : (((run ops).step (.reset tab)).slot tab).ads = none) : AdsStep ops tab (.reset tab)
  | taken (id : String) : AdsStep ops tab (.take tab id)
  | kept {o : Op} (not_ingests : ¬ Ingests tab ops o) (not_reset : o ≠ .reset tab) (not_take : ∀ id, o ≠ .take tab id)
      (ads_eq : (((run ops).step o).slot tab).ads = ((run ops).slot tab).ads) : AdsStep ops tab o

theorem not_ingests_of_ne_complete {tab : String} {ops : List Op} {o : Op} (h : ∀ t ads, o ≠ .complete t ads) :
    ¬ Ingests tab ops o := by
  rintro ⟨ads, t, rfl, -⟩
  exact h t ads rfl

theorem step_ads (ops : List Op) (tab : String) (o : Op) : AdsStep ops tab o := by
  cases o with
  | begin j =>
    refine .kept (not_ingests_of_ne_complete (by simp)) (by simp) (by simp) ?_
    simp only [step, begin_slot]
    split_ifs <;> rfl
  | complete t ads =>
    by_cases hs : (run ops).Accepts t ads ∧ t.tab = tab
    · refine .stored ⟨t, rfl, hs.2, hs.1⟩ ?_
      rw [step, complete_slot, if_pos ⟨isCurrent_iff.2 (accepts_iff.1 hs.1), hs.2⟩]
    · refine .kept ?_ (by simp) (by simp) ?_
      · rintro ⟨_, _, heq, htab, ha⟩
        cases heq
        exact hs ⟨ha, htab⟩
      · rw [step, complete_slot, if_neg fun hc => hs ⟨accepts_iff.2 (isCurrent_iff.1 hc.1), hc.2⟩]
  | park j w =>
    exact .kept (not_ingests_of_ne_complete (by simp)) (by simp) (by simp) (park_ads _ j w tab)
  | take j id =>
    by_cases hj : j = tab
    · subst hj
      exact .taken id
    · have hslot := (run ops).step_slot (o := .take j id) hj
      exact .kept (not_ingests_of_ne_complete (by simp)) (by simp) (by simp [hj]) (congrArg Slot.ads hslot)
  | reset j =>
    by_cases hj : j = tab
    · subst hj
      exact .forgotten (by simp [step, reset_slot, Slot.fresh])
    · have hslot := (run ops).step_slot (o := .reset j) hj
      exact .kept (not_ingests_of_ne_complete (by simp)) (by simp [hj]) (by simp) (congrArg Slot.ads hslot)

theorem step_hasAds (ops : List Op) (o : Op) (tab : String) :
    ((run ops).step o).hasAds tab = true ↔
      Ingests tab ops o ∨ ((run ops).hasAds tab = true ∧ o ≠ .reset tab) := by
  cases step_ads ops tab o with
  | @stored _ ads stores ads_eq =>
    have hi : Ingests tab ops o := ⟨ads, stores⟩
    simp [hasAds, ads_eq, hi]
  | forgotten ads_eq => simp [hasAds, ads_eq, not_ingests_of_ne_complete]
  | taken id => simp [hasAds, step, take_slot, not_ingests_of_ne_complete]
  | kept not_ingests not_reset not_take ads_eq => simp [hasAds, ads_eq, not_ingests, not_reset]

/-- what a tab has under an id after an operation was stored by it, or was there before and neither forgotten, replaced nor
taken by it -/
theorem step_ad? (ops : List Op) (o : Op) (tab id : String) (ad : AdRecord) :
    ((run ops).step o).ad? tab id = some ad ↔
      (∃ ads, Stores tab ads ops o ∧ ads.find? id = some ad) ∨
        ((run ops).ad? tab id = some ad ∧ ¬ (o = .reset tab ∨ Ingests tab ops o ∨ Takes tab id ops o)) := by
  cases step_ads ops tab o with
  | @stored _ ads stores ads_eq =>
    have hi : Ingests tab ops o := ⟨ads, stores⟩
    have hsame : ∀ ads', Stores tab ads' ops o → ads' = ads := by
      obtain ⟨t, rfl, -⟩ := stores
      rintro ads' ⟨t', heq, -⟩
      cases heq
      rfl
    simp only [ad?, ads_eq, Option.bind_some, hi, true_or, or_true, not_true, and_false, or_false]
    constructor
    · exact fun h => ⟨ads, stores, h⟩
    · rintro ⟨ads', hs, h⟩
      rwa [hsame ads' hs] at h
  | forgotten ads_eq =>
    have hs : ∀ ads, ¬ Stores tab ads ops (.reset tab) := fun ads h =>
      not_ingests_of_ne_complete (by simp) ⟨ads, h⟩
    simp [ad?, ads_eq, hs]
  | taken i =>
    have hi : ¬ Ingests tab ops (.take tab i) := not_ingests_of_ne_complete (by simp)
    have hs : ∀ ads, ¬ Stores tab ads ops (.take tab i) := fun ads h => hi ⟨ads, h⟩
    simp only [step, take_ad?, true_and, hs, false_and, exists_false, false_or, reduceCtorEq, hi, Takes, Op.take.injEq,
      take_result]
    by_cases h : i = id
    · subst h
      cases (run ops).ad? tab i <;> simp
    · simp [h]
  | kept not_ingests not_reset not_take ads_eq =>
    have hs : ∀ ads, ¬ Stores tab ads ops o := fun ads h => not_ingests ⟨ads, h⟩
    have ht : ¬ Takes tab id ops o := fun h => not_take id h.1
    simp [ad?, ads_eq, hs, not_ingests, not_reset, ht]

/-! ## Runs -/

theorem hasAds_run (ops : List Op) (tab : String) :
    (run ops).hasAds tab = true ↔ Since (Ingests tab) (fun _ o => o = .reset tab) ops := by
  induction ops using List.reverseRecOn with
  | nil => exact ⟨fun h => absurd h (by simp [run, hasAds, slot, empty, Slot.fresh]), fun h => absurd h not_since_nil⟩
  | append_singleton ops o ih => rw [run_snoc, step_hasAds, ih, since_snoc]

theorem ad?_run (ops : List Op) (tab id : String) (ad : AdRecord) :
    (run ops).ad? tab id = some ad ↔
      Since (fun before o => ∃ ads, Stores tab ads before o ∧ ads.find? id = some ad)
        (fun before o => o = .reset tab ∨ Ingests tab before o ∨ Takes tab id before o) ops := by
  induction ops using List.reverseRecOn with
  | nil => exact ⟨fun h => absurd h (by simp [run, ad?, slot, empty, Slot.fresh]), fun h => absurd h not_since_nil⟩
  | append_singleton ops o ih => rw [run_snoc, step_ad?, ih, since_snoc]

/-- What a tab does not have, it does not have until the next accepted ingestion. -/
theorem ad?_none_run {before mid : List Op} {tab id : String} (h : (run before).ad? tab id = none)
    (hmid : ∀ m o rest, mid = m ++ o :: rest → ¬ Ingests tab (before ++ m) o) :
    (run (before ++ mid)).ad? tab id = none := by
  induction mid using List.reverseRecOn with
  | nil => rwa [List.append_nil]
  | append_singleton mid o ih =>
    have hprev : (run (before ++ mid)).ad? tab id = none :=
      ih fun m o' rest hm => hmid m o' (rest ++ [o]) (by simp [hm])
    rw [← List.append_assoc, run_snoc]
    refine Option.eq_none_iff_forall_ne_some.2 fun ad had => ?_
    rcases (step_ad? (before ++ mid) o tab id ad).1 had with ⟨ads, hs, -⟩ | ⟨hsome, -⟩
    · exact hmid mid o [] rfl ⟨ads, hs⟩
    · rw [hprev] at hsome
      cases hsome

/-- **Every ad is taken at most once.** In every run: the ads of a tab are known exactly if an ingestion of it was accepted
since its last reset. An ad is taken under an id exactly if the latest accepted ingestion of the tab stored one under it, and
since then the tab was not reset and nothing was taken under the id; what is taken is the record that was stored. Taking it
leaves everything else as it was: the other tabs, and of its own tab whatever is under another id, the requests that wait and
the current attempt. So what was taken is not taken again before the next accepted ingestion. Whether a tab contains an ad,
and how many it has, always says what can still be taken; and beginning an attempt, or a completion that is refused, changes
none of this. -/
theorem ads_taken_once (ops : List Op) :
    (∀ tab, (run ops).hasAds tab = true ↔ Since (Ingests tab) (fun _ o => o = .reset tab) ops) ∧
    (∀ tab id ad, ((run ops).take tab id).2 = some ad ↔
      Since (fun before o => ∃ ads, Stores tab ads before o ∧ ads.find? id = some ad)
        (fun before o => o = .reset tab ∨ Ingests tab before o ∨ Takes tab id before o) ops) ∧
    (∀ tab id, let s := ((run ops).take tab id).1
      (∀ j, j ≠ tab → s.slot j = (run ops).slot j) ∧
      (∀ i, i ≠ id → (s.take tab i).2 = ((run ops).take tab i).2) ∧ s.hasAds tab = (run ops).hasAds tab ∧
      (s.slot tab).pending = ((run ops).slot tab).pending ∧ (s.slot tab).inFlight = ((run ops).slot tab).inFlight) ∧
    (∀ before tab id mid, ops = before ++ .take tab id :: mid →
      (∀ m o rest, mid = m ++ o :: rest → ¬ Ingests tab (before ++ .take tab id :: m) o) →
        ((run ops).take tab id).2 = none) ∧
    (∀ tab, (∀ id, (run ops).containsAd tab id = ((run ops).take tab id).2.isSome) ∧
      ∃ ids : List String, ids.Nodup ∧ (∀ id, id ∈ ids ↔ ((run ops).take tab id).2.isSome) ∧
        (run ops).adCount tab = if (run ops).hasAds tab then some ids.length else none) ∧
    (∀ tab, SameAds (run ops) ((run ops).begin tab).1) ∧
    ∀ t ads, ¬ (run ops).Accepts t ads → SameAds (run ops) ((run ops).complete t ads).1 := by
  refine ⟨hasAds_run ops, fun tab id ad => ?_, fun tab id => ?_, ?_, fun tab => ?_, begin_sameAds _,
    fun t ads h => refused_sameAds h⟩
  · rw [take_result]
    exact ad?_run ops tab id ad
  · refine ⟨fun j hj => ?_, fun i hi => ?_, ?_, ?_, ?_⟩
    · exact step_slot (run ops) (o := .take tab id) (Ne.symm hj)
    · rw [take_result, take_result, take_ad?, if_neg fun h => hi h.2.symm]
    · simp [hasAds, take_slot]
    · simp [take_slot]
    · simp [take_slot]
  · rintro before tab id mid rfl hmid
    have hgone : (run (before ++ [.take tab id])).ad? tab id = none := by
      rw [run_snoc, step, take_ad?, if_pos ⟨rfl, rfl⟩]
    have hnone : (run (before ++ [.take tab id] ++ mid)).ad? tab id = none := ad?_none_run hgone (by simpa using hmid)
    rw [take_result]
    simpa using hnone
  · obtain ⟨ids, hnodup, hids, hcount⟩ := (run ops).adCount_eq tab
    exact ⟨fun id => ((run ops).take_isSome tab id).symm, ids, hnodup, by simpa [take_result] using hids, hcount⟩

end AdConfirm.Tab.Sessions
