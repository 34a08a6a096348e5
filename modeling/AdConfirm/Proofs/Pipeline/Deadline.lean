import AdConfirm.Proofs.Pipeline.Overtaken
import AdConfirm.Proofs.Pipeline.Request

/-!
Ingestion attempts end in time, and nobody waits for them longer.

The time of an attempt is counted from the first turn of its task, and it is over when the limit for its fetch has passed,
whatever becomes of the page. Whoever stands in the line of the tab while the attempt is the current one stays there until the
attempt ends, the tab is reset, or a newer attempt of the tab begins.

- `isCurrent_iff_history`: the current attempt of a tab has begun and not ended, and was not overtaken.
- `Lawful.ends_by`, `UnderWay.done_of_over`: an attempt ends by its limit, and has ended once that instant is over.
- `line_until`, `settledBy`: what ends the wait for a current attempt, and what becomes of the request then.
- `attempts_end_in_time`: all of this, of every run.
-/

namespace AdConfirm.Pipeline

open AdConfirm.Tab (Ticket Waiting Sessions)
open AdConfirm.Tab.Sessions (isCurrent_iff)

/-- the attempt has its first turn at this time: it asks for its page in it, or ends -/
def FirstRuns (x : Setup) (p₀ : Pipeline) (es : List Event) (t : Ticket) (time : Nat) : Prop :=
  ∃ before e after, First (fun _ e => e = .ask t ∨ ∃ ads, e = .finish t ads) es before e after ∧
    (play x p₀ before).agenda.now = time

/-- the instant is over: it has passed, or no task is ready any more -/
def Over (p : Pipeline) (time : Nat) : Prop := time < p.agenda.now ∨ time = p.agenda.now ∧ p.agenda.isQuiet = true

/-- what the end of an attempt and a reset of its tab make of a request that stands in the line: it is answered, or abandoned;
one that its maker had given up stays so -/
inductive SettledBy (t : Ticket) (key : Nat) (before : List Event) : Event → Answer → Prop where
  | answered {ads : AdMap} {triggered : Bool} : SettledBy t key before (.finish t ads) (.decided triggered)
  | abandoned : SettledBy t key before (.reset t.tab) (.abandoned t.tab)
  | givenUp {e : Event} (given : .forget key ∈ before) (h : (∃ ads, e = .finish t ads) ∨ e = .reset t.tab) :
      SettledBy t key before e .forgotten

variable {x : Setup} {p p₀ : Pipeline} {es : List Event} {t : Ticket} {e : Event} {dropped : List Ticket} {w : Waiting}

/-! ## Current attempts -/

theorem start_empty (c : Policy.Center) (capacity : Option Nat) :
    (start c capacity).sessions = .empty ∧ (start c capacity).requests = [] := by
  unfold start
  cases capacity <;> exact ⟨rfl, rfl⟩

/-- An attempt that is current has begun. -/
theorem began_of_isCurrent (hempty : p₀.sessions = .empty) (h : (play x p₀ es).sessions.isCurrent t = true) :
    ∃ ok, Began x p₀ es t ok := by
  induction es using List.reverseRecOn with
  | nil =>
    rw [play, List.foldl_nil, hempty] at h
    cases h
  | append_singleton es e ih =>
    rw [play_snoc, isCurrent_iff] at h
    by_cases ho : e.Overtakes t.tab
    · rcases ho with rfl | ⟨url, trigger, rfl⟩
      · rw [perform, reset_sessions, Sessions.reset_slot, if_pos rfl] at h
        cases h
      · rw [perform, begin_sessions, Sessions.begin_slot, if_pos rfl] at h
        exact ⟨_, ever_snoc.2 (.inl ⟨url, trigger, rfl, congrArg (Ticket.mk t.tab) (Option.some.inj h), rfl⟩)⟩
    · by_cases hf : ∃ u ads, e = .finish u ads ∧ u.tab = t.tab ∧ (play x p₀ es).sessions.isCurrent u = true
      · -- the attempt that ends leaves its tab without a current one
        obtain ⟨u, ads, rfl, htab, hcurrent⟩ := hf
        rw [perform, finish_inFlight, if_pos ⟨hcurrent, htab⟩] at h
        cases h
      · rw [perform_inFlight ho fun u ads he htab => Bool.eq_false_iff.2 fun hu => hf ⟨u, ads, he, htab, hu⟩] at h
        obtain ⟨ok, hok⟩ := ih (isCurrent_iff.2 h)
        exact ⟨ok, hok.append [e]⟩

theorem Outdated.not_isCurrent (h : Outdated p t) : ¬ p.sessions.isCurrent t = true := fun hcurrent =>
  h.1 (isCurrent_iff.1 hcurrent)

/-- Who was overtaken, or has ended, is not current any more. -/
theorem OvertakenIn.outdated (h : OvertakenIn x p₀ es t) : Outdated (play x p₀ es) t := by
  obtain ⟨before, e, after, rfl, ho, ⟨ok, began⟩, -⟩ := h
  rw [play_append, play_cons]
  exact (outdated_of_overtakes ho began.attempt_le).play after

theorem Done.outdated (h : Done es t) (lawful : Lawful x p₀ es) : Outdated (play x p₀ es) t := by
  obtain ⟨ads, hads⟩ := h
  obtain ⟨before, after, rfl⟩ := List.append_of_mem hads
  have hended : Lawful x p₀ (before ++ [.finish t ads]) := by
    rw [← List.singleton_append, ← List.append_assoc] at lawful
    exact lawful.of_append
  obtain ⟨ok, began⟩ := hended.began_of_done (done_snoc.2 (.inr ⟨ads, rfl⟩))
  have hle := began.attempt_le
  rw [play_append, play_cons]
  rw [play_snoc] at hle
  refine Outdated.play ⟨?_, hle⟩ after
  rw [perform, finish_inFlight]
  split_ifs with hcurrent
  · exact (Option.some_ne_none t.attempt).symm
  · exact fun hflight => hcurrent ⟨isCurrent_iff.2 hflight, rfl⟩

/-- **The current attempt of a tab** is the one that has begun and not ended, and was not overtaken. -/
theorem isCurrent_iff_history (hempty : p₀.sessions = .empty) (lawful : Lawful x p₀ es) :
    (play x p₀ es).sessions.isCurrent t = true ↔
      (∃ ok, Began x p₀ es t ok) ∧ ¬ Done es t ∧ ¬ OvertakenIn x p₀ es t := by
  constructor
  · intro h
    exact ⟨began_of_isCurrent hempty h, fun hdone => (hdone.outdated lawful).not_isCurrent h,
      fun hover => hover.outdated.not_isCurrent h⟩
  · rintro ⟨⟨ok, began⟩, undone, hover⟩
    exact (current_or_overtaken began undone).resolve_right hover

/-! ## The limit of an attempt -/

theorem ran_iff : Ran es t ↔ ∃ s, FirstRuns x p₀ es t s := by
  constructor
  · intro hran
    have hever : Ever (fun _ e => e = .ask t ∨ ∃ ads, e = .finish t ads) es := by
      rcases hran with hask | ⟨ads, hads⟩
      · obtain ⟨before, after, rfl⟩ := List.append_of_mem hask
        exact ⟨before, _, after, rfl, .inl rfl⟩
      · obtain ⟨before, after, rfl⟩ := List.append_of_mem hads
        exact ⟨before, _, after, rfl, .inr ⟨ads, rfl⟩⟩
    obtain ⟨before, e, after, hfirst⟩ := exists_first hever
    exact ⟨_, before, e, after, hfirst, rfl⟩
  · rintro ⟨s, before, e, after, ⟨rfl, rfl | ⟨ads, rfl⟩, -⟩, -⟩
    · exact .inl (by simp)
    · exact .inr ⟨ads, by simp⟩

/-- An attempt that has run and not ended has asked for its page. -/
theorem FirstRuns.asked {s : Nat} (h : FirstRuns x p₀ es t s) (undone : ¬ Done es t) :
    ∃ promise, AskedAt x p₀ es t s promise := by
  obtain ⟨before, e, after, ⟨rfl, he, -⟩, rfl⟩ := h
  rcases he with rfl | ⟨ads, rfl⟩
  · exact ⟨_, before, _, after, rfl, rfl, rfl, rfl⟩
  · exact absurd ⟨ads, by simp⟩ undone

/-- An attempt ends at its first turn, or has asked for its page then. -/
theorem FirstRuns.ends {s : Nat} {before after : List Event} {ads : AdMap}
    (h : FirstRuns x p₀ (before ++ .finish t ads :: after) t s) (undone : ¬ Done before t) :
    (play x p₀ before).agenda.now = s ∨ ∃ promise, AskedAt x p₀ before t s promise := by
  obtain ⟨pre, e, post, hfirst, rfl⟩ := h
  by_cases hask : Ever (fun _ e => e = .ask t ∨ ∃ ads, e = .finish t ads) before
  · obtain ⟨pre', e', post', hfirst'⟩ := exists_first hask
    have hsame : First (fun _ e => e = .ask t ∨ ∃ ads, e = .finish t ads) (before ++ .finish t ads :: after)
        pre' e' (post' ++ .finish t ads :: after) :=
      ⟨by rw [hfirst'.split]; simp, hfirst'.here, hfirst'.not_before⟩
    obtain ⟨rfl, rfl, -⟩ := hfirst.unique hsame
    have hran : FirstRuns x p₀ before t (play x p₀ pre).agenda.now := ⟨pre, e, post', hfirst', rfl⟩
    exact .inr (hran.asked undone)
  · obtain ⟨rfl, -, -⟩ := hfirst.unique ⟨rfl, .inr ⟨ads, rfl⟩, hask⟩
    exact .inl rfl

/-- An attempt that waits does so until its limit at most. -/
theorem Awaits.due_le {a : Arrival} {due since : Nat} {promise : Promise} (h : Awaits x p₀ es t a due)
    (lawful : Lawful x p₀ es) (hasked : AskedAt x p₀ es t since promise) : due ≤ since + x.fetchLimit := by
  cases h with
  | arrives asked hms =>
    obtain ⟨rfl, -⟩ := lawful.askedAt_unique hasked asked
    exact Nat.add_le_add_left hms _
  | tooLate asked _ => exact (lawful.askedAt_unique hasked asked).1 ▸ le_rfl
  | never asked => exact (lawful.askedAt_unique hasked asked).1 ▸ le_rfl
  | atOnce asked _ => exact (lawful.askedAt_unique hasked asked).1 ▸ le_rfl
  | held asked => exact (lawful.askedAt_unique hasked asked).1 ▸ le_rfl

/-- An attempt ends by the limit that is counted from its first turn. -/
theorem Lawful.ends_by (lawful : Lawful x p₀ es) {s : Nat} (hruns : FirstRuns x p₀ es t s) {before after : List Event}
    {ads : AdMap} (heq : es = before ++ .finish t ads :: after) : (play x p₀ before).agenda.now ≤ s + x.fetchLimit := by
  subst heq
  obtain ⟨undone, hends⟩ := lawful before _ after rfl
  rcases hruns.ends undone with hnow | ⟨promise, hasked⟩
  · omega
  · cases hends with
    | gatedOff _ unasked => exact absurd hasked.mem unasked
    | arrived asked _ inTime now =>
      obtain ⟨rfl, -⟩ := lawful.of_append.askedAt_unique hasked asked
      omega
    | cutOff asked _ now =>
      obtain ⟨rfl, -⟩ := lawful.of_append.askedAt_unique hasked asked
      omega

/-- An attempt that has run and not ended has a task, and its limit has not passed; as long as no task is ready, it has not
even come. -/
theorem UnderWay.waits_on (h : UnderWay x p₀ es dropped [] none) {s : Nat} (hruns : FirstRuns x p₀ es t s)
    (undone : ¬ Done es t) : (play x p₀ es).agenda.now ≤ s + x.fetchLimit ∧
      ((play x p₀ es).agenda.isQuiet = true → (play x p₀ es).agenda.now < s + x.fetchLimit) := by
  obtain ⟨promise, hasked⟩ := hruns.asked undone
  have hnotDropped : t ∉ dropped := fun hmem => (h.idle t hmem).1 hasked.mem
  have hmem := (h.accounted t true (h.lawful.began_of_ask hasked.mem)).resolve_left undone
  have htask : t ∈ (play x p₀ es).underway.tasks.map (·.1) := (List.mem_append.1 hmem).resolve_left hnotDropped
  obtain ⟨⟨u, stage⟩, hu, rfl⟩ := List.mem_map.1 htask
  rcases List.mem_append.1 hu with hready | hasleep
  · refine ⟨?_, fun hquiet => ?_⟩
    · cases h.ready u stage hready with
      | begun _ unasked => exact absurd hasked.mem unasked
      | due sleeps now => exact now.le.trans (sleeps.waits.due_le h.lawful hasked)
      | letGo waits _ _ _ inTime => exact inTime.trans (waits.due_le h.lawful hasked)
    · rw [underway, Agenda.pick, List.isEmpty_iff.1 hquiet] at hready
      cases hready
  · obtain ⟨z, hz, hzu⟩ := List.mem_map.1 hasleep
    obtain ⟨v, a, due, rfl, hsleeps, hlt⟩ := h.asleep z hz
    cases hzu
    have hdue := hsleeps.waits.due_le h.lawful hasked
    exact ⟨by omega, fun _ => by omega⟩

/-- Once the instant of its limit is over, an attempt has ended. -/
theorem UnderWay.done_of_over (h : UnderWay x p₀ es dropped [] none) {s : Nat} (hruns : FirstRuns x p₀ es t s)
    (hover : Over (play x p₀ es) (s + x.fetchLimit)) : Done es t := by
  by_contra undone
  obtain ⟨hle, hlt⟩ := h.waits_on hruns undone
  rcases hover with hpassed | ⟨hnow, hquiet⟩
  · omega
  · have hbefore := hlt hquiet
    omega

/-- As long as an attempt has not ended, its limit has not passed. -/
theorem UnderWay.in_time (h : UnderWay x p₀ es dropped [] none) (hforward : Forward x p₀ es) {s : Nat}
    (hruns : FirstRuns x p₀ es t s) {before after : List Event} (heq : es = before ++ after) (undone : ¬ Done before t) :
    (play x p₀ before).agenda.now ≤ s + x.fetchLimit := by
  subst heq
  by_cases hdone : Done (before ++ after) t
  · obtain ⟨ads, hads⟩ := hdone
    have hafter : .finish t ads ∈ after := (List.mem_append.1 hads).resolve_left fun hmem => undone ⟨ads, hmem⟩
    obtain ⟨mid, rest, rfl⟩ := List.append_of_mem hafter
    have hends := h.lawful.ends_by hruns (List.append_assoc before mid _).symm
    have hmid := (forward_append.1 (forward_append.1 hforward).2).1.now_le
    rw [← play_append] at hmid
    exact hmid.trans hends
  · have hlater := (forward_append.1 hforward).2.now_le
    rw [← play_append] at hlater
    exact hlater.trans (h.waits_on hruns hdone).1

/-! ## Who waits for an attempt -/

/-- Who stands in the line of a current attempt stays there until the attempt ends or is overtaken. -/
theorem line_perform (h : p.sessions.isCurrent t = true) (ho : e ≠ .reset t.tab) (hf : ∀ ads, e ≠ .finish t ads)
    (hw : w ∈ p.line t.tab) : w ∈ (perform x p e).line t.tab := by
  cases perform_change x p e with
  | answered b requests lines => exact lines t.tab ▸ hw
  | parked requests lines =>
    rw [lines]
    split_ifs
    · exact List.mem_append_left _ hw
    · exact hw
  | forgotten requests lines => exact lines t.tab ▸ hw
  | @completed u ads accepted requests lines =>
    rw [lines, if_neg]
    · exact hw
    · intro htab
      exact hf ads (by rw [eq_of_isCurrent h accepted htab])
  | @reset j requests lines =>
    rw [lines, if_neg]
    · exact hw
    · rintro rfl
      exact ho rfl
  | aside isAside requests lines => exact lines t.tab ▸ hw

/-- What ends the wait of one who stands in the line of a current attempt: the attempt ends, or is overtaken. -/
theorem line_until (h : p.sessions.isCurrent t = true) (hw : w ∈ p.line t.tab) (es : List Event) :
    (play x p es).sessions.isCurrent t = true ∨
      ∃ mid e rest, es = mid ++ e :: rest ∧ (play x p mid).sessions.isCurrent t = true ∧ w ∈ (play x p mid).line t.tab ∧
        (e.Overtakes t.tab ∨ ∃ ads, e = .finish t ads) := by
  induction es generalizing p with
  | nil => exact .inl h
  | cons e es ih =>
    by_cases hends : e.Overtakes t.tab ∨ ∃ ads, e = .finish t ads
    · exact .inr ⟨[], e, es, rfl, h, hw, hends⟩
    · obtain ⟨ho, hf⟩ := not_or.1 hends
      have hfinish : ∀ ads, e ≠ .finish t ads := fun ads he => hf ⟨ads, he⟩
      have hcurrent := isCurrent_perform (x := x) h ho hfinish
      refine (ih hcurrent (line_perform h (fun he => ho (.inl he)) hfinish hw)).imp id ?_
      rintro ⟨mid, e', rest, rfl, hrest⟩
      exact ⟨e :: mid, e', rest, rfl, hrest⟩

/-- An answer of those in a line is a decision. -/
theorem answers_decided (isReporting : Bool) (ads : AdMap) (ws : List Waiting) :
    ∀ a ∈ answers isReporting ads ws, ∃ triggered, a.2 = .decided triggered := by
  induction ws generalizing ads with
  | nil => simp [answers]
  | cons w ws ih =>
    intro a ha
    rcases List.mem_cons.1 ha with rfl | ha
    · exact ⟨_, rfl⟩
    · exact ih _ a ha

/-- Settling requests gives up none if no answer is that. -/
theorem not_forgotten_of_settled {rs : List Answer} {as : List (Nat × Answer)} {key : Nat}
    (h : (settled rs as)[key]? = some .forgotten) (has : ∀ a ∈ as, a.2 ≠ .forgotten) : rs[key]? = some .forgotten := by
  induction as generalizing rs with
  | nil => exact h
  | cons a as ih =>
    obtain ⟨ha, has⟩ := List.forall_mem_cons.1 has
    rw [settled_cons] at h
    have hrest := ih h has
    rw [settled_single] at hrest
    split_ifs at hrest with hkey
    · exact absurd (Option.some.inj hrest) ha
    · exact hrest

/-- A request is given up by its maker, and by nobody else. -/
theorem forgotten_perform {key : Nat} (h : (perform x p e).requests[key]? = some .forgotten) :
    e = .forget key ∨ p.requests[key]? = some .forgotten := by
  have appended {a : Answer} (ha : a ≠ .forgotten) (h : (p.requests ++ [a])[key]? = some .forgotten) :
      p.requests[key]? = some .forgotten := by
    rw [List.getElem?_append] at h
    split_ifs at h
    · exact h
    · exact absurd (List.mem_singleton.1 (List.mem_of_getElem? h)).symm ha
  cases perform_change x p e with
  | answered b requests _ => exact .inr (appended (by simp) (requests ▸ h))
  | parked requests _ => exact .inr (appended (by simp) (requests ▸ h))
  | @forgotten k requests _ =>
    rw [requests, settled_single] at h
    split_ifs at h with hkey
    · exact .inl (congrArg Event.forget hkey.1)
    · exact .inr h
  | completed accepted requests _ =>
    refine .inr (not_forgotten_of_settled (requests ▸ h) fun a ha => ?_)
    obtain ⟨triggered, hdecided⟩ := answers_decided _ _ _ a ha
    simp [hdecided]
  | reset requests _ => exact .inr (not_forgotten_of_settled (requests ▸ h) (by simp [abandons]))
  | aside isAside requests _ => exact .inr (requests ▸ h)

theorem forget_mem {key : Nat} (hempty : p₀.requests = []) (h : (play x p₀ es).requests[key]? = some .forgotten) :
    .forget key ∈ es := by
  induction es using List.reverseRecOn with
  | nil => simp [play, hempty] at h
  | append_singleton es e ih =>
    rw [play_snoc] at h
    rcases forgotten_perform h with rfl | hbefore
    · simp
    · exact List.mem_append_left _ (ih hbefore)

/-- The end of a current attempt and a reset of its tab settle who stands in the line, and let them go. -/
theorem settledBy (hempty : p₀.requests = []) (hinv : Inv es (play x p₀ es))
    (hcurrent : (play x p₀ es).sessions.isCurrent t = true) (hw : w ∈ (play x p₀ es).line t.tab)
    (he : (∃ ads, e = .finish t ads) ∨ e = .reset t.tab) :
    w ∉ (play x p₀ (es ++ [e])).line t.tab ∧
      ∃ a, a ≠ .waiting ∧ (play x p₀ (es ++ [e])).requests[w.key]? = some a ∧ SettledBy t w.key es e a := by
  have hline : (play x p₀ (es ++ [e])).line t.tab = [] := by
    rw [play_snoc]
    rcases he with ⟨ads, rfl⟩ | rfl
    · exact ((finish_accepted x _ ads hcurrent).2 t.tab).trans (if_pos rfl)
    · exact ((reset_spec _ t.tab).2 t.tab).trans (if_pos rfl)
  refine ⟨by simp [hline], ?_⟩
  rw [play_snoc]
  rcases hinv.unsettled t.tab w hw with hwaiting | hforgotten
  · obtain ⟨earlier, later, hsplit⟩ := List.append_of_mem hw
    have hwaits : Waits (play x p₀ es) t.tab w.ad w.key (earlier.any (·.ad = w.ad)) := ⟨hwaiting, earlier, later, hsplit, rfl⟩
    rcases hwaits.step (x := x) hinv e with ⟨hnone, -⟩ | ⟨a, ha, houtcome, hsettled⟩
    · rcases he with ⟨ads, rfl⟩ | rfl
      · simp [outcome?_accepted hcurrent] at hnone
      · simp [outcome?] at hnone
    · refine ⟨a, ha, hsettled, ?_⟩
      rcases he with ⟨ads, rfl⟩ | rfl
      · rw [outcome?_accepted hcurrent, if_pos rfl] at houtcome
        exact Option.some.inj houtcome ▸ .answered
      · rw [outcome?, if_pos rfl] at houtcome
        exact Option.some.inj houtcome ▸ .abandoned
  · exact ⟨.forgotten, by simp, perform_settled hforgotten (by simp), .givenUp (forget_mem hempty hforgotten) he⟩

/-! ## Runs -/

/-- Who stands in the line of a current attempt is settled by its limit, unless a newer attempt of the tab begins. -/
theorem Recounts.settles {c : Policy.Center} {capacity : Option Nat} {ops : List Op} {before after : List Event} {s : Nat}
    (h : Recounts x (start c capacity) ops (before ++ after) dropped)
    (hforward : Forward x (start c capacity) (before ++ after))
    (hruns : FirstRuns x (start c capacity) (before ++ after) t s)
    (hover : Over (play x (start c capacity) (before ++ after)) (s + x.fetchLimit))
    (hcurrent : (play x (start c capacity) before).sessions.isCurrent t = true)
    (hw : w ∈ (play x (start c capacity) before).line t.tab) :
    ∃ mid e rest, after = mid ++ e :: rest ∧ (play x (start c capacity) (before ++ mid)).agenda.now ≤ s + x.fetchLimit ∧
      ((∃ url trigger, e = .begin t.tab url trigger) ∨
        w ∉ (play x (start c capacity) (before ++ mid ++ [e])).line t.tab ∧
          ∃ a, SettledBy t w.key (before ++ mid) e a ∧
            (play x (start c capacity) (before ++ mid ++ [e])).requests[w.key]? = some a ∧
            (play x (start c capacity) (before ++ after)).requests[w.key]? = some a) := by
  obtain ⟨hsessions, hrequests⟩ := start_empty c capacity
  have lawful := h.underWay.lawful
  rcases line_until (x := x) hcurrent hw after with hstill | ⟨mid, e, rest, rfl, hcurrent, hw, hends⟩
  · rw [← play_append, isCurrent_iff_history hsessions lawful] at hstill
    exact absurd (h.underWay.done_of_over hruns hover) hstill.2.1
  · rw [← play_append] at hcurrent hw
    have heq : before ++ (mid ++ e :: rest) = before ++ mid ++ e :: rest := (List.append_assoc before mid _).symm
    have hundone := ((isCurrent_iff_history hsessions (heq ▸ lawful).of_append).1 hcurrent).2.1
    refine ⟨mid, e, rest, rfl, h.underWay.in_time hforward hruns heq hundone, ?_⟩
    have settles (he : (∃ ads, e = .finish t ads) ∨ e = .reset t.tab) :
        w ∉ (play x (start c capacity) (before ++ mid ++ [e])).line t.tab ∧
          ∃ a, SettledBy t w.key (before ++ mid) e a ∧
            (play x (start c capacity) (before ++ mid ++ [e])).requests[w.key]? = some a ∧
            (play x (start c capacity) (before ++ (mid ++ e :: rest))).requests[w.key]? = some a := by
      have hinv := play_inv (x := x) (inv_start c capacity) (before ++ mid)
      obtain ⟨hgone, a, ha, hanswer, hsettled⟩ := settledBy hrequests hinv hcurrent hw he
      have hend : before ++ (mid ++ e :: rest) = before ++ mid ++ [e] ++ rest := by simp
      refine ⟨hgone, a, hsettled, hanswer, ?_⟩
      rw [hend, play_append]
      exact play_settled hanswer ha rest
    rcases hends with (hreset | hbegin) | hfinish
    · exact .inr (settles (.inr hreset))
    · exact .inl hbegin
    · exact .inr (settles (.inl hfinish))

/-- **Every attempt ends by its limit, and nobody waits for it longer.** Every run is a play of events, in which its operations
from outside occur in their order, and no other calls, and its journal tells what these events did. An attempt of
`ingestNever` never has a turn; every other has had its first turn once no task is ready. Whenever that was, the attempt does
not end after the limit that is counted from it, whether its page comes, is let go, or never comes at all; and once the instant
of its limit is over, it has ended. At any moment the lines hold the requests that wait, each that of its tab, and those given
up; and an attempt is the current one of its tab just in case it has begun, has not ended, and was not overtaken. Of whoever
stands in the line of the tab at such a moment, one of these is true by the end of that instant: a newer attempt of the tab has
begun; the attempt has ended, and the request was answered true or false; the tab was reset, and the request was abandoned; or
that would be so had its maker not given it up before. Such an answer stays for good. -/
theorem attempts_end_in_time (x : Setup) (c : Policy.Center) (capacity : Option Nat) (ops : List Op) :
    ∃ (es : List Event) (dropped : List Ticket), let p₀ := start c capacity
      (run x p₀ ops = play x p₀ es ∧ (ops.filterMap Op.event?).Sublist es ∧
        es.filter Event.isCall = (ops.filterMap Op.event?).filter Event.isCall ∧
        (run x p₀ ops).chronicle = yields (fun before e => e.entries x (play x p₀ before)) [] es ∧
        dropped.map (·.tab) = ops.filterMap Op.neverRun?) ∧
      ((∀ t s, FirstRuns x p₀ es t s → t ∉ dropped ∧ ∃ isAllowed, Began x p₀ es t isAllowed) ∧
        ((run x p₀ ops).agenda.isQuiet = true → ∀ t isAllowed, Began x p₀ es t isAllowed → t ∉ dropped →
          ∃ s, FirstRuns x p₀ es t s)) ∧
      ∀ t s, FirstRuns x p₀ es t s →
        (∀ before ads after, es = before ++ .finish t ads :: after → (play x p₀ before).agenda.now ≤ s + x.fetchLimit) ∧
        (Over (run x p₀ ops) (s + x.fetchLimit) → Done es t) ∧
        ∀ before after, es = before ++ after → Inv before (play x p₀ before) ∧
          ((play x p₀ before).sessions.isCurrent t = true ↔
            (∃ isAllowed, Began x p₀ before t isAllowed) ∧ ¬ Done before t ∧ ¬ OvertakenIn x p₀ before t) ∧
          ((play x p₀ before).sessions.isCurrent t = true → Over (run x p₀ ops) (s + x.fetchLimit) →
            ∀ w ∈ (play x p₀ before).line t.tab, ∃ mid e rest, after = mid ++ e :: rest ∧
              (play x p₀ (before ++ mid)).agenda.now ≤ s + x.fetchLimit ∧
              ((∃ url trigger, e = .begin t.tab url trigger) ∨
                w ∉ (play x p₀ (before ++ mid ++ [e])).line t.tab ∧
                  ∃ a, SettledBy t w.key (before ++ mid) e a ∧
                    (play x p₀ (before ++ mid ++ [e])).requests[w.key]? = some a ∧
                    (run x p₀ ops).requests[w.key]? = some a)) := by
  obtain ⟨es, dropped, h, hforward⟩ := run_forward x c capacity ops
  have lawful := h.underWay.lawful
  have hsessions := (start_empty c capacity).1
  refine ⟨es, dropped, ⟨h.run, h.calls_in_order, h.no_other_calls, h.chronicle, h.never_run⟩, ⟨?_, ?_⟩, ?_⟩
  · intro t s hruns
    have hran : Ran es t := ran_iff.2 ⟨s, hruns⟩
    refine ⟨fun ht => ?_, hran.elim (fun hask => ⟨true, lawful.began_of_ask hask⟩) lawful.began_of_done⟩
    obtain ⟨hunasked, hundone⟩ := h.underWay.idle t (List.mem_reverse.2 ht)
    exact hran.elim hunasked hundone
  · rw [h.run]
    intro hquiet t isAllowed hbegan ht
    exact ran_iff.1 (h.underWay.ran hquiet hbegan fun hmem => ht (List.mem_reverse.1 hmem))
  · rw [h.run]
    intro t s hruns
    refine ⟨fun before ads after heq => lawful.ends_by hruns heq, h.underWay.done_of_over hruns, ?_⟩
    rintro before after rfl
    exact ⟨play_inv (inv_start c capacity) before, isCurrent_iff_history hsessions lawful.of_append,
      fun hcurrent hover w hw => h.settles hforward hruns hover hcurrent hw⟩

-- a page that never comes: the request waits just until the limit
example : let before : List Op := [.setPage "tab" none .endless, .request "tab" "ad",
      .ingest "tab" ⟨"https".toList, [], [], some (.domain "search.brave.com".toList), none, .segments [], none, none⟩ true,
      .settle, .advance 9999]
    (run (.withoutPolicy .live .prompt) (start (.ofSnapshot .start) none) before).requests = [.waiting] ∧
      (run (.withoutPolicy .live .prompt) (start (.ofSnapshot .start) none) (before ++ [.advance 1])).requests =
        [.decided false] := by
  decide +kernel

end AdConfirm.Pipeline
