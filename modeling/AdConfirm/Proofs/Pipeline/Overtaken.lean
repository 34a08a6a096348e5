import AdConfirm.Proofs.Pipeline.Ingested

/-!
Attempts that are overtaken.

An attempt is overtaken when a newer attempt of its tab begins before it has ended, or its tab is reset. From then on it is not
the current one of its tab any more, and never again; and nothing else makes an attempt end too late.

- `perform_inFlight`: only the beginning of an attempt, a reset and an accepted completion change which attempt is current.
- `current_or_overtaken`, `not_current_of_overtaken`: an attempt that has begun and not ended is current just in case it was not
  overtaken.
- `Recounts.overtaken_of_late`, `Recounts.not_stored_of_overtaken`: so the journal of a run tells which attempts were overtaken.
-/

namespace AdConfirm.Pipeline

open AdConfirm.Tab (Ticket Waiting Sessions)
open AdConfirm.Tab.Sessions (accepts_iff isCurrent_iff)

/-- a newer attempt of the tab begins, or the tab is reset -/
def Event.Overtakes (tab : String) (e : Event) : Prop := e = .reset tab ∨ ∃ url trigger, e = .begin tab url trigger

/-- the attempt was overtaken: when it had begun and not ended, a newer attempt of its tab began, or the tab was reset -/
def OvertakenIn (x : Setup) (p₀ : Pipeline) (es : List Event) (t : Ticket) : Prop :=
  Ever (fun before e => e.Overtakes t.tab ∧ (∃ ok, Began x p₀ before t ok) ∧ ¬ Done before t) es

/-- the attempt was overtaken in the run of these operations -/
def Overtaken (x : Setup) (p₀ : Pipeline) (ops : List Op) (t : Ticket) : Prop :=
  ∃ es dropped, Recounts x p₀ ops es dropped ∧ OvertakenIn x p₀ es t

variable {x : Setup} {p p₀ : Pipeline} {es : List Event} {t : Ticket}

/-! ## Which attempt is current -/

theorem resolve_inFlight (p : Pipeline) (tab id j : String) :
    ((p.resolve tab id).1.sessions.slot j).inFlight = (p.sessions.slot j).inFlight := by
  rw [resolve_sessions, Sessions.take_inFlight]

theorem answer_fold_inFlight (isReporting : Bool) (tab j : String) (ws : List Waiting) (p : Pipeline) :
    ((ws.foldl (answer isReporting tab) p).sessions.slot j).inFlight = (p.sessions.slot j).inFlight := by
  induction ws generalizing p with
  | nil => rfl
  | cons w ws ih =>
    rw [List.foldl_cons, ih]
    cases isReporting with
    | false => rfl
    | true => exact resolve_inFlight p tab w.ad j

theorem finish_inFlight (x : Setup) (p : Pipeline) (t : Ticket) (ads : AdMap) (j : String) :
    ((finish x p t ads).sessions.slot j).inFlight =
      if p.sessions.isCurrent t = true ∧ t.tab = j then none else (p.sessions.slot j).inFlight := by
  have hslot := p.sessions.complete_slot t ads j
  cases hcurrent : p.sessions.isCurrent t with
  | false =>
    rw [hcurrent, if_neg (by simp)] at hslot
    rw [finish_late ads hcurrent, if_neg (by simp)]
    exact congrArg Tab.Slot.inFlight hslot
  | true =>
    have hanswered : ((finish x p t ads).sessions.slot j).inFlight = ((stocked p t ads).sessions.slot j).inFlight := by
      rw [finish_eq ads hcurrent]
      simp only [fireHooks, answerAll]
      split_ifs
      · rfl
      · rw [adopt_sessions, answer_fold_inFlight]
    rw [hanswered, stocked_slot ads hcurrent]
    by_cases hj : t.tab = j <;> simp [hj]

/-- Only the beginning of an attempt, a reset and an accepted completion change which attempt of a tab is current. -/
theorem perform_inFlight {e : Event} {tab : String} (ho : ¬ e.Overtakes tab)
    (hf : ∀ t ads, e = .finish t ads → t.tab = tab → p.sessions.isCurrent t = false) :
    ((perform x p e).sessions.slot tab).inFlight = (p.sessions.slot tab).inFlight := by
  cases htouch : e.touchesTabs with
  | false => rw [perform_sessions htouch]
  | true =>
    cases e with
    | begin j url trigger =>
      have hj : j ≠ tab := fun h => ho (.inr ⟨url, trigger, by rw [h]⟩)
      rw [perform, begin_sessions, Sessions.begin_slot, if_neg hj]
    | reset j =>
      have hj : j ≠ tab := fun h => ho (.inl (by rw [h]))
      rw [perform, reset_sessions, Sessions.reset_slot, if_neg hj]
    | finish t ads =>
      refine (finish_inFlight x p t ads tab).trans (if_neg ?_)
      rintro ⟨hcurrent, htab⟩
      rw [hf t ads rfl htab] at hcurrent
      cases hcurrent
    | request j id =>
      cases hr : x.gate.reports p.center with
      | false =>
        simp only [perform, request_unreported x p j id hr]
        rfl
      | true =>
        cases ha : (p.sessions.slot j).ads with
        | none =>
          simp only [perform, request_waits x p id hr ha]
          exact Sessions.park_inFlight p.sessions j ⟨p.requests.length, id⟩ tab
        | some ads =>
          simp only [perform, request_ready x p id hr (by rw [ha]; rfl)]
          exact resolve_inFlight p j id tab
    | resolve j id => exact resolve_inFlight p j id tab
    | _ => cases htouch

/-! ## What it means to be overtaken -/

theorem OvertakenIn.append (h : OvertakenIn x p₀ es t) (fs : List Event) : OvertakenIn x p₀ (es ++ fs) t := ever_append h fs

/-- An attempt that begins is current. -/
theorem begin_isCurrent (x : Setup) (p : Pipeline) (tab : String) (url : Url) (trigger : Bool) :
    (perform x p (.begin tab url trigger)).sessions.isCurrent (p.sessions.begin tab).2 = true := by
  rw [perform, begin_sessions]
  exact isCurrent_begin p.sessions tab

/-- Of a tab there is one current attempt at most. -/
theorem eq_of_isCurrent {u : Ticket} (ht : p.sessions.isCurrent t = true) (hu : p.sessions.isCurrent u = true)
    (htab : u.tab = t.tab) : u = t := by
  have hsame : some u.attempt = some t.attempt := (isCurrent_iff.1 hu).symm.trans (htab ▸ isCurrent_iff.1 ht)
  exact congrArg₂ Ticket.mk htab (Option.some.inj hsame)

/-- A current attempt stays current until it ends or is overtaken. -/
theorem isCurrent_perform {e : Event} (h : p.sessions.isCurrent t = true) (ho : ¬ e.Overtakes t.tab)
    (hf : ∀ ads, e ≠ .finish t ads) : (perform x p e).sessions.isCurrent t = true := by
  -- a completion of the tab that is accepted now would be that of the attempt itself
  have hothers : ∀ u ads, e = .finish u ads → u.tab = t.tab → p.sessions.isCurrent u = false := by
    rintro u ads rfl htab
    by_contra hu
    exact hf ads (by rw [eq_of_isCurrent h (Bool.of_not_eq_false hu) htab])
  rw [isCurrent_iff, perform_inFlight ho hothers]
  exact isCurrent_iff.1 h

/-- An attempt that has begun and not ended is the current one of its tab, or was overtaken. -/
theorem current_or_overtaken {ok : Bool} (began : Began x p₀ es t ok) (undone : ¬ Done es t) :
    (play x p₀ es).sessions.isCurrent t = true ∨ OvertakenIn x p₀ es t := by
  induction es using List.reverseRecOn with
  | nil => exact absurd began not_ever_nil
  | append_singleton es e ih =>
    have hundone : ¬ Done es t := fun h => undone (done_snoc.2 (.inl h))
    rcases ever_snoc.1 began with ⟨url, trigger, rfl, ht, -⟩ | hbegan
    · refine .inl ?_
      rw [play_snoc, ← ht]
      exact begin_isCurrent x _ t.tab url trigger
    · rcases ih hbegan hundone with hcurrent | hover
      · by_cases ho : e.Overtakes t.tab
        · exact .inr (ever_snoc.2 (.inl ⟨ho, ⟨ok, hbegan⟩, hundone⟩))
        · refine .inl ?_
          rw [play_snoc]
          exact isCurrent_perform hcurrent ho fun ads he => undone (done_snoc.2 (.inr ⟨ads, he⟩))
      · exact .inr (hover.append [e])

/-- the number kept for a tab is not that of the attempt, which has been counted -/
def Outdated (p : Pipeline) (t : Ticket) : Prop :=
  (p.sessions.slot t.tab).inFlight ≠ some t.attempt ∧ t.attempt ≤ p.sessions.attempts

theorem outdated_of_overtakes {e : Event} (ho : e.Overtakes t.tab) (hle : t.attempt ≤ p.sessions.attempts) :
    Outdated (perform x p e) t := by
  have hattempts := perform_attempts x p e
  refine ⟨?_, by omega⟩
  rcases ho with rfl | ⟨url, trigger, rfl⟩
  · rw [perform, reset_sessions, Sessions.reset_slot, if_pos rfl]
    exact (Option.some_ne_none t.attempt).symm
  · have hnumber : (p.sessions.begin t.tab).2.attempt = p.sessions.attempts + 1 := rfl
    rw [perform, begin_sessions, Sessions.begin_slot, if_pos rfl, hnumber, ne_eq, Option.some.injEq]
    omega

/-- An attempt that is not current any more never is again. -/
theorem Outdated.perform (h : Outdated p t) (e : Event) : Outdated (perform x p e) t := by
  by_cases ho : e.Overtakes t.tab
  · exact outdated_of_overtakes ho h.2
  · have hattempts := perform_attempts x p e
    refine ⟨?_, hattempts ▸ Nat.le_add_right_of_le h.2⟩
    by_cases hf : ∃ u ads, e = .finish u ads ∧ u.tab = t.tab ∧ p.sessions.isCurrent u = true
    · -- the current attempt of the tab has ended, and left none
      obtain ⟨u, ads, rfl, htab, hcurrent⟩ := hf
      rw [Pipeline.perform, finish_inFlight, if_pos ⟨hcurrent, htab⟩]
      exact (Option.some_ne_none t.attempt).symm
    · rw [perform_inFlight ho fun u ads he htab => Bool.eq_false_iff.2 fun hcurrent => hf ⟨u, ads, he, htab, hcurrent⟩]
      exact h.1

theorem Outdated.play (h : Outdated p t) (es : List Event) : Outdated (play x p es) t := by
  induction es generalizing p with
  | nil => exact h
  | cons e es ih => exact ih (h.perform e)

/-- An attempt that was overtaken before it ended is not current when it ends. -/
theorem not_current_of_overtaken {ads : AdMap} {after : List Event} (h : OvertakenIn x p₀ (es ++ .finish t ads :: after) t) :
    (play x p₀ es).sessions.isCurrent t = false := by
  obtain ⟨before, e, rest, heq, ho, ⟨ok, began⟩, undone⟩ := h
  -- it was overtaken before it ended
  obtain ⟨mid, rfl⟩ : ∃ mid, es = before ++ e :: mid := by
    rcases List.append_eq_append_iff.1 heq with ⟨l, rfl, hl⟩ | ⟨l, rfl, hl⟩
    · cases l with
      | nil =>
        obtain ⟨rfl, -⟩ := List.cons.inj hl
        rcases ho with ho | ⟨url, trigger, ho⟩ <;> cases ho
      | cons f l =>
        obtain ⟨rfl, -⟩ := List.cons.inj hl
        exact absurd ⟨ads, by simp⟩ undone
    · cases l with
      | nil =>
        obtain ⟨rfl, -⟩ := List.cons.inj hl
        rcases ho with ho | ⟨url, trigger, ho⟩ <;> cases ho
      | cons f l =>
        obtain ⟨rfl, -⟩ := List.cons.inj hl
        exact ⟨l, rfl⟩
  have houtdated : Outdated (play x p₀ (before ++ e :: mid)) t := by
    rw [play_append, play_cons]
    exact (outdated_of_overtakes ho began.attempt_le).play mid
  by_contra hcurrent
  exact houtdated.1 (isCurrent_iff.1 (Bool.of_not_eq_false hcurrent))

/-! ## What the journal tells of it -/

theorem late_told {e : Event} (h : .late t ∈ e.told x p) : ∃ ads, e = .finish t ads ∧ p.sessions.isCurrent t = false := by
  cases e with
  | finish u ads =>
    cases hcurrent : p.sessions.isCurrent u with
    | true => simp [Event.told, hcurrent] at h
    | false =>
      obtain rfl : t = u := by simpa [Event.told, hcurrent] using h
      exact ⟨ads, rfl, hcurrent⟩
  | begin tab url trigger =>
    simp only [Event.told] at h
    split_ifs at h <;> simp at h
  | arrive u a =>
    simp only [Event.told] at h
    split_ifs at h <;> simp at h
  | _ => simp [Event.told] at h

theorem stored_told {e : Event} {ads : AdMap} {ws : List Waiting} (h : .stored t ads ws ∈ e.told x p) :
    e = .finish t ads ∧ p.sessions.isCurrent t = true := by
  cases e with
  | finish u ads' =>
    cases hcurrent : p.sessions.isCurrent u with
    | false => simp [Event.told, hcurrent] at h
    | true =>
      obtain ⟨rfl, rfl, -⟩ : t = u ∧ ads = ads' ∧ ws = p.line u.tab := by simpa [Event.told, hcurrent] using h
      exact ⟨rfl, hcurrent⟩
  | begin tab url trigger =>
    simp only [Event.told] at h
    split_ifs at h <;> simp at h
  | arrive u a =>
    simp only [Event.told] at h
    split_ifs at h <;> simp at h
  | _ => simp [Event.told] at h

section Runs

variable {c : Policy.Center} {capacity : Option Nat} {ops : List Op} {dropped : List Ticket} {time : Nat}

/-- What the chronicle of a run has was told by an event of its history. -/
theorem Recounts.told (h : Recounts x (start c capacity) ops es dropped) {n : Note}
    (hn : (time, n) ∈ (Pipeline.run x (start c capacity) ops).chronicle) :
    ∃ before e after, es = before ++ e :: after ∧ n ∈ e.told x (play x (start c capacity) before) := by
  rw [h.chronicle] at hn
  obtain ⟨before, e, after, heq, hentry⟩ := mem_yields.1 hn
  obtain ⟨m, htold, hm⟩ := List.mem_map.1 hentry
  obtain ⟨-, rfl⟩ := Prod.mk.inj hm
  exact ⟨before, e, after, heq, by simpa using htold⟩

/-- An attempt of which the journal says that it ended too late was overtaken. -/
theorem Recounts.overtaken_of_late (h : Recounts x (start c capacity) ops es dropped)
    (hlate : (time, .late t) ∈ (Pipeline.run x (start c capacity) ops).chronicle) :
    OvertakenIn x (start c capacity) es t := by
  obtain ⟨before, e, after, rfl, htold⟩ := h.told hlate
  obtain ⟨ads, rfl, hcurrent⟩ := late_told htold
  obtain ⟨undone, -⟩ := h.underWay.lawful before _ after rfl
  have hended : Lawful x (start c capacity) (before ++ [.finish t ads]) := by
    have hlawful := h.underWay.lawful
    rw [← List.singleton_append, ← List.append_assoc] at hlawful
    exact hlawful.of_append
  obtain ⟨ok, began⟩ := hended.began_of_done (done_snoc.2 (.inr ⟨ads, rfl⟩))
  rcases ever_snoc.1 began with ⟨url, trigger, heq, -⟩ | hbegan
  · cases heq
  · rcases current_or_overtaken hbegan undone with hyes | hover
    · rw [hcurrent] at hyes
      cases hyes
    · exact hover.append _

/-- An attempt that was overtaken stored nothing. -/
theorem Recounts.not_stored_of_overtaken (h : Recounts x (start c capacity) ops es dropped)
    (hover : OvertakenIn x (start c capacity) es t) (ads : AdMap) (ws : List Waiting) :
    (time, .stored t ads ws) ∉ (Pipeline.run x (start c capacity) ops).chronicle := by
  intro hstored
  obtain ⟨before, e, after, rfl, htold⟩ := h.told hstored
  obtain ⟨rfl, hcurrent⟩ := stored_told htold
  rw [not_current_of_overtaken hover] at hcurrent
  cases hcurrent

end Runs

end AdConfirm.Pipeline
