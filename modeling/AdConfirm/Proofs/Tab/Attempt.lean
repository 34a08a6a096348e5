import AdConfirm.Proofs.Tab.Run

/-!
The current attempt of a tab.

The sessions keep one number per tab, that of its current attempt, and accept a completion if the ticket shows this number.
What the number means is a fact about the whole run: `Current` says it without the number.

- `inFlight_run`: the number kept for a tab is that of its current attempt, in every run.
- `begin_number`: no two attempts have the same number, so a ticket that is not current any more never is again.
- `accepts_iff_current`: the completions that are accepted are those of current attempts, and all others leave the sessions
  as they were.
-/

namespace AdConfirm.Tab

namespace Sessions

/-- whether the sessions accept a completion -/
def Accepts (s : Sessions) (t : Ticket) (ads : AdMap) : Prop := ∃ released, (s.complete t ads).2 = .ok released

/-- the sessions after a completion was refused: it was counted, and nothing else -/
def refusing (s : Sessions) : Sessions :=
  { s with metrics := { s.metrics with staleCompletions := s.metrics.staleCompletions + 1 } }

/-- what makes the attempt of a ticket current: it begins, and hands out the ticket -/
def Issues (before : List Op) (o : Op) (t : Ticket) : Prop := o = .begin t.tab ∧ ((run before).begin t.tab).2 = t

/-- what ends that: another attempt of the tab, a reset of the tab, or a completion that is accepted with the ticket -/
def Outdates (before : List Op) (o : Op) (t : Ticket) : Prop :=
  o = .begin t.tab ∨ o = .reset t.tab ∨ ∃ ads, o = .complete t ads ∧ (run before).Accepts t ads

/-- the ticket was handed out by the latest attempt of its tab, and since then the tab was not reset and no completion with
the ticket was accepted -/
def Current (ops : List Op) (t : Ticket) : Prop := Since (Issues · · t) (Outdates · · t) ops

theorem isCurrent_iff {s : Sessions} {t : Ticket} :
    s.isCurrent t = true ↔ (s.slot t.tab).inFlight = some t.attempt := beq_iff_eq

theorem accepts_iff {s : Sessions} {t : Ticket} {ads : AdMap} :
    s.Accepts t ads ↔ (s.slot t.tab).inFlight = some t.attempt := by
  rw [← isCurrent_iff, Accepts, complete_result]
  split_ifs with h <;> simp [h]

theorem complete_of_not_accepts {s : Sessions} {t : Ticket} {ads : AdMap} (h : ¬ s.Accepts t ads) :
    s.complete t ads = (s.refusing, .error ⟨t⟩) := by
  have hc : ¬ s.isCurrent t = true := fun hc => h (accepts_iff.2 (isCurrent_iff.1 hc))
  simp only [complete, if_neg hc]
  rfl

theorem park_inFlight (s : Sessions) (tab : String) (w : Waiting) (j : String) :
    ((s.park tab w).1.slot j).inFlight = (s.slot j).inFlight := by
  cases ha : (s.slot tab).ads with
  | none =>
    rw [s.park_slot w ha]
    split_ifs <;> rfl
  | some ads => rw [s.park_ready w (by rw [ha]; rfl)]

theorem take_inFlight (s : Sessions) (tab id j : String) :
    ((s.take tab id).1.slot j).inFlight = (s.slot j).inFlight := by
  rw [take_slot]
  split_ifs <;> rfl

/-- What an operation does to the number kept for a tab. -/
theorem step_inFlight (ops : List Op) (o : Op) (t : Ticket) :
    (((run ops).step o).slot t.tab).inFlight = some t.attempt ↔
      Issues ops o t ∨ (((run ops).slot t.tab).inFlight = some t.attempt ∧ ¬ Outdates ops o t) := by
  cases o with
  | begin tab =>
    simp only [step, begin_slot]
    by_cases ht : tab = t.tab
    · subst ht
      have hnew : ((run ops).begin t.tab).2 = t ↔ ((run ops).begin t.tab).2.attempt = t.attempt :=
        ⟨congrArg Ticket.attempt, fun h => congrArg (Ticket.mk t.tab) h⟩
      simp [Issues, Outdates, hnew]
    · simp [Issues, Outdates, ht]
  | complete u ads =>
    have hissue : ¬ Issues ops (.complete u ads) t := by simp [Issues]
    have hout : Outdates ops (.complete u ads) t ↔ u = t ∧ (run ops).Accepts t ads := by simp [Outdates]
    simp only [step, complete_slot, hissue, hout, false_or, accepts_iff]
    by_cases hu : (run ops).isCurrent u = true ∧ u.tab = t.tab
    · have hnumber : ((run ops).slot t.tab).inFlight = some u.attempt := hu.2 ▸ isCurrent_iff.1 hu.1
      rw [if_pos hu]
      constructor
      · intro h
        exact absurd h (by simp)
      · rintro ⟨h, hn⟩
        have heq : u.attempt = t.attempt := Option.some.inj (hnumber.symm.trans h)
        exact absurd ⟨congrArg₂ Ticket.mk hu.2 heq, h⟩ hn
    · rw [if_neg hu]
      have hn : ¬ (u = t ∧ ((run ops).slot t.tab).inFlight = some t.attempt) := by
        rintro ⟨rfl, h⟩
        exact hu ⟨isCurrent_iff.2 h, rfl⟩
      simp [hn]
  | park tab w => simp [step, park_inFlight, Issues, Outdates]
  | take tab id => simp [step, take_inFlight, Issues, Outdates]
  | reset tab =>
    simp only [step, reset_slot]
    by_cases ht : tab = t.tab <;> simp [ht, Slot.fresh, Issues, Outdates]

/-- The number kept for a tab is that of its current attempt. -/
theorem inFlight_run (ops : List Op) (t : Ticket) :
    ((run ops).slot t.tab).inFlight = some t.attempt ↔ Current ops t := by
  induction ops using List.reverseRecOn with
  | nil =>
    have hfresh : ((run []).slot t.tab).inFlight = none := rfl
    rw [hfresh]
    exact ⟨fun h => absurd h (by simp), fun h => absurd h not_since_nil⟩
  | append_singleton ops o ih => rw [run_snoc, step_inFlight, ih, Current, Current, since_snoc]

/-! ## Numbers are not used twice -/

theorem begun_append (ops ops' : List Op) : begun (ops ++ ops') = begun ops + begun ops' := List.countP_append

/-- An attempt gets the next number. -/
theorem begin_number (ops : List Op) (tab : String) : ((run ops).begin tab).2 = ⟨tab, begun ops + 1⟩ := by
  rw [← attempts_run]
  rfl

/-- The number of a current attempt is that of the attempt that began before all that happened since. -/
theorem Current.number {ops : List Op} {t : Ticket} (h : Current ops t) :
    ∃ before after, ops = before ++ .begin t.tab :: after ∧ t.attempt = begun before + 1 ∧
      ∀ mid o rest, after = mid ++ o :: rest → ¬ Outdates (before ++ .begin t.tab :: mid) o t := by
  obtain ⟨before, o, after, rfl, ⟨rfl, hnew⟩, hout⟩ := h
  rw [begin_number] at hnew
  exact ⟨before, after, rfl, (congrArg Ticket.attempt hnew).symm, hout⟩

/-- Two points of a run where an attempt with the same number begins are the same point. -/
theorem eq_of_begun_eq {before after before' after' : List Op} {tab tab' : String}
    (h : before ++ .begin tab :: after = before' ++ .begin tab' :: after') (hn : begun before = begun before') :
    before = before' ∧ after = after' := by
  have hcount (tab : String) (l : List Op) : begun (.begin tab :: l) = begun l + 1 := List.countP_cons_of_pos rfl
  rcases List.append_eq_append_iff.1 h with ⟨l, rfl, hl⟩ | ⟨l, rfl, hl⟩
  · cases l with
    | nil => exact ⟨by simp, (List.cons.inj hl).2⟩
    | cons o l =>
      obtain ⟨rfl, -⟩ := List.cons.inj hl
      rw [begun_append, hcount] at hn
      omega
  · cases l with
    | nil => exact ⟨by simp, (List.cons.inj hl).2.symm⟩
    | cons o l =>
      obtain ⟨rfl, -⟩ := List.cons.inj hl
      rw [begun_append, hcount] at hn
      omega

/-- A ticket that was handed out and has been outdated since is not current any more. -/
theorem not_current_of_outdated {before mid rest : List Op} {tab : String} {o : Op}
    (h : Outdates (before ++ .begin tab :: mid) o ((run before).begin tab).2) :
    ¬ Current (before ++ .begin tab :: mid ++ o :: rest) ((run before).begin tab).2 := by
  intro hc
  obtain ⟨before', after', heq, hn, hout⟩ := hc.number
  rw [begin_number] at hn
  rw [List.append_assoc] at heq
  obtain ⟨rfl, rfl⟩ := eq_of_begun_eq heq (Nat.succ.inj hn)
  exact hout mid o rest rfl h

/-! ## Completions -/

/-- **A completion is accepted exactly for the current attempt of its tab.** In every run, and for every ticket, be it handed
out or made up: a completion is accepted if and only if the ticket was handed out by the latest attempt of its tab and since
then the tab was not reset and no completion with the ticket was accepted. One that is refused tells the ticket, and leaves
everything as it was but the count of late completions. Attempts are numbered from one in the order in which they begin, so
fewer of them than there are numbers of 64 bits all have such numbers; and since no number is used twice, a ticket that has
been outdated once is refused for ever. -/
theorem accepts_iff_current (ops : List Op) :
    (∀ t ads, (run ops).Accepts t ads ↔ Current ops t) ∧
    (∀ t ads, ¬ Current ops t →
      (run ops).complete t ads = (refusing (run ops), .error ⟨t⟩) ∧
        ∀ tab, ((run ops).complete t ads).1.slot tab = (run ops).slot tab) ∧
    (∀ before tab after, ops = before ++ .begin tab :: after →
      ((run before).begin tab).2 = ⟨tab, begun before + 1⟩ ∧ begun before + 1 ≤ begun ops) ∧
    ∀ before tab mid o rest, ops = before ++ .begin tab :: mid ++ o :: rest →
      Outdates (before ++ .begin tab :: mid) o ((run before).begin tab).2 →
        ∀ ads, ¬ (run ops).Accepts ((run before).begin tab).2 ads := by
  have haccepts (t : Ticket) (ads : AdMap) : (run ops).Accepts t ads ↔ Current ops t :=
    accepts_iff.trans (inFlight_run ops t)
  refine ⟨haccepts, fun t ads hn => ?_, ?_, ?_⟩
  · have hrefused : (run ops).complete t ads = (refusing (run ops), .error ⟨t⟩) :=
      complete_of_not_accepts fun ha => hn ((haccepts t ads).1 ha)
    exact ⟨hrefused, fun tab => by rw [hrefused]; rfl⟩
  · rintro before tab after rfl
    refine ⟨begin_number before tab, ?_⟩
    have hcount : begun (.begin tab :: after) = begun after + 1 := List.countP_cons_of_pos rfl
    rw [begun_append, hcount]
    omega
  · rintro before tab mid o rest rfl hout ads ha
    exact not_current_of_outdated hout ((haccepts _ ads).1 ha)

end Sessions

end AdConfirm.Tab
