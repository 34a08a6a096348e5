import AdConfirm.Proofs.Pipeline.Attempt
import AdConfirm.Proofs.Pipeline.Frame

/-!
The ingestion attempts that are under way.

An attempt that has begun waits for its first turn; one that has asked for its page waits for the page or for its limit,
whichever comes first. Besides the tasks there can be one attempt whose turn it is, and those that are waited for in the middle
of a call. The clock never goes past the time that an attempt waits for, and a page that is let go is taken in at the same
time, so an attempt ends at the right time and knows whether its page has come.

- `Awaits`, `Sleeps`, `Ready`: what the history says of an attempt that is under way.
- `Fetches`: what it says of those that are held back until they are let go.
- `UnderWay`: all attempts under way are as the history says, and the history is lawful.
- `UnderWay.event`, `UnderWay.arrange`: events of other attempts, and tasks that are rearranged, keep it so.
- `UnderWay.taken`, `UnderWay.slept`, `UnderWay.spawned`: an attempt has its turn, goes to sleep, or goes into the line.
-/

namespace AdConfirm.Pipeline

open AdConfirm.Tab (Ticket Waiting)

def Task.attempt? : Task → Option (Ticket × Stage)
  | .ingest t s => some (t, s)
  | _ => none

def underway (p : Pipeline) : Agenda (Ticket × Stage) := p.agenda.pick Task.attempt?

def Event.begun? (p : Pipeline) : Event → Option Ticket
  | .begin tab _ _ => some (p.sessions.begin tab).2
  | _ => none

/-- all attempts that have begun and not ended: those that are never run, the one whose turn it is, those that are waited for,
and those with a task -/
def roster (dropped : List Ticket) (hand : List (Ticket × Arrival × Nat)) (busy : Option Ticket)
    (a : Agenda (Ticket × Stage)) : List Ticket :=
  dropped ++ (busy.toList ++ (hand.map (·.1) ++ a.tasks.map (·.1)))

/-- whether an event goes on with fetches or rearranges tasks -/
def Event.stirs : Event → Bool
  | .ask _ | .arrive _ _ | .release _ | .arrange _ => true
  | _ => false

section Defs

variable (x : Setup) (p₀ : Pipeline) (es : List Event) (t : Ticket)

/-- the attempt has asked for its page, and waits like this until that time: for its arrival, for the limit alone, or for the
limit unless the page is let go -/
inductive Awaits : Arrival → Nat → Prop where
  | arrives {since ms : Nat} (asked : AskedAt x p₀ es t since (.within ms)) (h : ms ≤ x.fetchLimit) :
      Awaits .arrives (since + ms)
  | tooLate {since ms : Nat} (asked : AskedAt x p₀ es t since (.within ms)) (h : x.fetchLimit < ms) :
      Awaits .cutOff (since + x.fetchLimit)
  | never {since : Nat} (asked : AskedAt x p₀ es t since .never) : Awaits .cutOff (since + x.fetchLimit)
  | atOnce {since : Nat} (asked : AskedAt x p₀ es t since .onRelease) (h : x.fetchLimit = 0) :
      Awaits .cutOff (since + x.fetchLimit)
  | held {since : Nat} (asked : AskedAt x p₀ es t since .onRelease) : Awaits .ifReleased (since + x.fetchLimit)

/-- the attempt waits, it has not ended, and its page was not let go -/
structure Sleeps (a : Arrival) (due : Nat) : Prop where
  waits : Awaits x p₀ es t a due
  undone : ¬ Done es t
  unreleased : ∀ time, ¬ LetGo x p₀ es t time

/-- the attempt may have its turn now: it has not done anything yet, or its time has come, or its page was just let go -/
inductive Ready : Stage → Prop where
  | begun {ok : Bool} (began : Began x p₀ es t ok) (unasked : .ask t ∉ es) (undone : ¬ Done es t) : Ready (.begun ok)
  | due {a : Arrival} {due : Nat} (sleeps : Sleeps x p₀ es t a due) (now : (play x p₀ es).agenda.now = due) :
      Ready (.fetching a)
  | letGo {due : Nat} (waits : Awaits x p₀ es t .ifReleased due) (undone : ¬ Done es t)
      (letGo : LetGo x p₀ es t (play x p₀ es).agenda.now) (released : t ∈ (play x p₀ es).source.released)
      (inTime : (play x p₀ es).agenda.now ≤ due) : Ready (.fetching .ifReleased)

/-- who is held back waits for its release and was not let go, who was released was let go, and once only -/
structure Fetches : Prop where
  held : ∀ t ∈ (play x p₀ es).source.held, 0 < x.fetchLimit ∧ (∃ since, AskedAt x p₀ es t since .onRelease) ∧
    ∀ time, ¬ LetGo x p₀ es t time
  released : ∀ t ∈ (play x p₀ es).source.released, ∃ time, LetGo x p₀ es t time
  asked : ∀ t time, LetGo x p₀ es t time → .ask t ∈ es
  once : ∀ t time time', LetGo x p₀ es t time → LetGo x p₀ es t time' → time = time'

/-- the attempts that have begun and not ended are as the history says: those that are never run, those that are waited for,
the one whose turn it is, and those with a task -/
structure UnderWay (dropped : List Ticket) (hand : List (Ticket × Arrival × Nat)) (busy : Option Ticket) : Prop where
  lawful : Lawful x p₀ es
  ready : ∀ t s, (t, s) ∈ (play x p₀ es).underway.ready → Ready x p₀ es t s
  asleep : ∀ z ∈ (play x p₀ es).underway.asleep, ∃ t a due, z = ⟨some due, (t, .fetching a)⟩ ∧ Sleeps x p₀ es t a due ∧
    (play x p₀ es).agenda.now < due
  handed : ∀ t a due, (t, a, due) ∈ hand → Sleeps x p₀ es t a due
  engaged : ∀ t ∈ dropped ++ busy.toList, ∃ ok, Began x p₀ es t ok
  idle : ∀ t ∈ dropped, .ask t ∉ es ∧ ¬ Done es t
  distinct : (roster dropped hand busy (play x p₀ es).underway).Nodup
  accounted : ∀ t ok, Began x p₀ es t ok → Done es t ∨ t ∈ roster dropped hand busy (play x p₀ es).underway
  fetches : Fetches x p₀ es

end Defs

variable {x : Setup} {p₀ p : Pipeline} {es fs : List Event} {t : Ticket} {e : Event} {a : Arrival} {due : Nat} {s : Stage}
  {dropped : List Ticket} {hand : List (Ticket × Arrival × Nat)} {busy busy' : Option Ticket}

/-! ## Attempts that nothing happens to -/

theorem Awaits.append (h : Awaits x p₀ es t a due) (fs : List Event) : Awaits x p₀ (es ++ fs) t a due := by
  cases h with
  | arrives asked h => exact .arrives (asked.append fs) h
  | tooLate asked h => exact .tooLate (asked.append fs) h
  | never asked => exact .never (asked.append fs)
  | atOnce asked h => exact .atOnce (asked.append fs) h
  | held asked => exact .held (asked.append fs)

theorem Awaits.mem (h : Awaits x p₀ es t a due) : .ask t ∈ es := by
  cases h with
  | arrives asked _ => exact asked.mem
  | tooLate asked _ => exact asked.mem
  | never asked => exact asked.mem
  | atOnce asked _ => exact asked.mem
  | held asked => exact asked.mem

/-- Only an attempt that waits for its release can be let go. -/
theorem Awaits.eq_ifReleased (h : Awaits x p₀ es t a due) (hlawful : Lawful x p₀ es) {since : Nat}
    (hasked : AskedAt x p₀ es t since .onRelease) (hlimit : 0 < x.fetchLimit) : a = .ifReleased := by
  cases h with
  | arrives asked _ => cases (hlawful.askedAt_unique asked hasked).2
  | tooLate asked _ => cases (hlawful.askedAt_unique asked hasked).2
  | never asked => cases (hlawful.askedAt_unique asked hasked).2
  | atOnce _ h => omega
  | held asked => rfl

theorem letGo_snoc_of_ne (hr : ∀ tab, e ≠ .release tab) {time : Nat} :
    LetGo x p₀ (es ++ [e]) t time ↔ LetGo x p₀ es t time := by
  rw [letGo_snoc]
  exact or_iff_right fun h => hr _ h.1

/-- Who asks now may be held back; otherwise only a release changes who is held back, and who was let go. -/
theorem Fetches.snoc (h : Fetches x p₀ es) (fits : Fits x p₀ es e) (hr : ∀ tab, e ≠ .release tab)
    (hheld : ∀ t ∈ (play x p₀ (es ++ [e])).source.held, t ∈ (play x p₀ es).source.held ∨
      0 < x.fetchLimit ∧ e = .ask t ∧ (play x p₀ es).source.promise t.tab = .onRelease)
    (hreleased : ∀ t ∈ (play x p₀ (es ++ [e])).source.released, t ∈ (play x p₀ es).source.released) :
    Fetches x p₀ (es ++ [e]) where
  held t ht := by
    rcases hheld t ht with ht | ⟨hlimit, rfl, hpromise⟩
    · obtain ⟨hlimit, ⟨since, hasked⟩, hkept⟩ := h.held t ht
      exact ⟨hlimit, ⟨since, hasked.append [e]⟩, fun time hgo => hkept time ((letGo_snoc_of_ne hr).1 hgo)⟩
    · refine ⟨hlimit, ⟨_, es, _, [], rfl, rfl, rfl, hpromise⟩, fun time hgo => ?_⟩
      exact fits.2.1 (h.asked t time ((letGo_snoc_of_ne hr).1 hgo))
  released t ht := by
    obtain ⟨time, hgo⟩ := h.released t (hreleased t ht)
    exact ⟨time, hgo.append [e]⟩
  asked t time hgo := List.mem_append_left _ (h.asked t time ((letGo_snoc_of_ne hr).1 hgo))
  once t time time' hgo hgo' := h.once t time time' ((letGo_snoc_of_ne hr).1 hgo) ((letGo_snoc_of_ne hr).1 hgo')

/-- Rearranging tasks is nothing to the fetches. -/
theorem Fetches.arrange (h : Fetches x p₀ es) (a : Agenda Task) : Fetches x p₀ (es ++ [.arrange a]) := by
  have hplay : play x p₀ (es ++ [.arrange a]) = { play x p₀ es with agenda := a } := play_snoc p₀ es _
  refine h.snoc (e := .arrange a) trivial (by simp) ?_ ?_
  · intro t ht
    rw [hplay] at ht
    exact .inl ht
  · intro t ht
    rw [hplay] at ht
    exact ht

theorem Sleeps.snoc (h : Sleeps x p₀ es t a due) (he : e.attempt? ≠ some t) (hr : ∀ tab, e ≠ .release tab) :
    Sleeps x p₀ (es ++ [e]) t a due where
  waits := h.waits.append [e]
  undone := not_done_snoc h.undone (ne_finish_of_attempt? he)
  unreleased time hgo := h.unreleased time ((letGo_snoc_of_ne hr).1 hgo)

theorem Sleeps.arrange (h : Sleeps x p₀ es t a due) (agenda : Agenda Task) : Sleeps x p₀ (es ++ [.arrange agenda]) t a due :=
  h.snoc (e := .arrange agenda) (by simp [Event.attempt?]) (by simp)

theorem Ready.snoc (h : Ready x p₀ es t s) (he : e.attempt? ≠ some t)
    (hnow : (play x p₀ (es ++ [e])).agenda.now = (play x p₀ es).agenda.now)
    (hr : ∀ tab, e ≠ .release tab)
    (hkept : t ∈ (play x p₀ es).source.released → t ∈ (play x p₀ (es ++ [e])).source.released) :
    Ready x p₀ (es ++ [e]) t s := by
  have hundone : ¬ Done es t → ¬ Done (es ++ [e]) t := fun undone => not_done_snoc undone (ne_finish_of_attempt? he)
  cases h with
  | begun began unasked undone =>
    exact .begun (began.append [e]) (not_asked_snoc unasked (ne_ask_of_attempt? he)) (hundone undone)
  | due sleeps now => exact .due (sleeps.snoc he hr) (hnow.trans now)
  | letGo waits undone letGo released inTime =>
    exact .letGo (waits.append [e]) (hundone undone) (hnow ▸ letGo.append [e]) (hkept released) (hnow ▸ inTime)

/-- Who may have its turn may have it after tasks are rearranged, if the clock stands still. -/
theorem Ready.arrange (h : Ready x p₀ es t s) {agenda : Agenda Task} (hnow : agenda.now = (play x p₀ es).agenda.now) :
    Ready x p₀ (es ++ [.arrange agenda]) t s := by
  have hplay : play x p₀ (es ++ [.arrange agenda]) = { play x p₀ es with agenda } := play_snoc p₀ es _
  refine h.snoc (by simp [Event.attempt?]) ?_ (by simp) fun ht => ?_
  · rw [hplay]
    exact hnow
  · rw [hplay]
    exact ht

/-- Who has begun after an event began with it or before. -/
theorem began_snoc {ok : Bool} (h : Began x p₀ (es ++ [e]) t ok) :
    e.begun? (play x p₀ es) = some t ∨ Began x p₀ es t ok := by
  refine (ever_snoc.1 h).imp_left ?_
  rintro ⟨url, trigger, rfl, hnew, -⟩
  exact congrArg some hnew

theorem began_of_begun? (h : e.begun? (play x p₀ es) = some t) : ∃ ok, Began x p₀ (es ++ [e]) t ok := by
  cases e with
  | begin tab url trigger =>
    obtain rfl := Option.some.inj h
    exact ⟨_, ever_snoc.2 (.inl ⟨url, trigger, rfl, rfl, rfl⟩)⟩
  | _ => cases h

theorem now_congr {p q : Pipeline} (h : q.underway = p.underway) : q.agenda.now = p.agenda.now := by
  have hnow := congrArg Agenda.now h
  exact hnow

/-! ## Events that leave the tasks alone -/

theorem perform_underway (x : Setup) (p : Pipeline) (h : e.stirs = false) :
    (perform x p e).underway = p.underway ∧ (perform x p e).source.held = p.source.held ∧
      (perform x p e).source.released = p.source.released := by
  have of_eq {q : Pipeline} (agenda : q.agenda = p.agenda) (source : q.source = p.source) :
      q.underway = p.underway ∧ q.source.held = p.source.held ∧ q.source.released = p.source.released := by
    rw [underway, underway, agenda, source]
    exact ⟨rfl, rfl, rfl⟩
  have of_claim {q : Pipeline} (hq : ∃ isClaimed, Frame p q (claimed isClaimed)) :
      q.underway = p.underway ∧ q.source.held = p.source.held ∧ q.source.released = p.source.released := by
    obtain ⟨isClaimed, hframe⟩ := hq
    have hnone : (claimed isClaimed).filterMap Task.attempt? = [] := by cases isClaimed <;> rfl
    rw [underway, underway, hframe.agenda, hframe.source, Agenda.pick_ready hnone]
    exact ⟨rfl, rfl, rfl⟩
  cases e with
  | ask t => cases h
  | arrive t a => cases h
  | release tab => cases h
  | arrange a => cases h
  | finish t ads => exact of_claim (finish_claims x p t ads)
  | request tab id => exact of_claim (request_claims x p tab id)
  | resolve tab id => exact of_claim (resolve_claims p tab id)
  | closeSection i => exact of_claim (closeSection_claims p i)
  | reset tab => exact of_claim ⟨false, reset_frame p tab⟩
  | begin tab url trigger =>
    simp only [perform, Pipeline.begin]
    split_ifs <;> exact of_eq rfl rfl
  | setPage tab page d =>
    refine ⟨rfl, ?_, ?_⟩ <;> cases page <;> rfl
  | apply s =>
    simp only [perform, Pipeline.apply]
    split
    · exact of_eq rfl rfl
    · exact of_eq rfl rfl
    · refine ⟨?_, rfl, rfl⟩
      simp [underway, spawn, note, Agenda.pick_spawn, Task.attempt?]
  | publish e =>
    simp only [perform, Pipeline.publish?]
    cases p.bus.publish? e with
    | none => exact of_eq rfl rfl
    | some bus =>
      refine ⟨Agenda.pick_wakeIf_none fun z u hz => ?_, rfl, rfl⟩
      cases htask : z.task <;> simp [htask, Task.attempt?, isListen] at hz ⊢
  | receive =>
    simp only [perform, Pipeline.receive]
    split <;> exact of_eq rfl rfl
  | drain d => exact of_claim ⟨false, drain_frame x p d⟩
  | _ => exact of_eq rfl rfl

namespace UnderWay

/-- Every attempt on the roster has begun. -/
theorem began_of_mem (h : UnderWay x p₀ es dropped hand busy)
    (ht : t ∈ roster dropped hand busy (play x p₀ es).underway) : ∃ ok, Began x p₀ es t ok := by
  rcases List.mem_append.1 ht with ht | ht
  · exact h.engaged t (List.mem_append_left _ ht)
  rcases List.mem_append.1 ht with ht | ht
  · exact h.engaged t (List.mem_append_right _ ht)
  rcases List.mem_append.1 ht with ht | ht
  · obtain ⟨⟨u, a, due⟩, hu, rfl⟩ := List.mem_map.1 ht
    exact ⟨true, h.lawful.began_of_ask (h.handed u a due hu).waits.mem⟩
  obtain ⟨⟨u, s⟩, hu, rfl⟩ := List.mem_map.1 ht
  rcases List.mem_append.1 hu with hu | hu
  · cases h.ready u s hu with
    | begun began => exact ⟨_, began⟩
    | due sleeps => exact ⟨true, h.lawful.began_of_ask sleeps.waits.mem⟩
    | letGo waits => exact ⟨true, h.lawful.began_of_ask waits.mem⟩
  · obtain ⟨z, hz, hzu⟩ := List.mem_map.1 hu
    obtain ⟨v, b, due, rfl, hsleeps, -⟩ := h.asleep z hz
    cases hzu
    exact ⟨true, h.lawful.began_of_ask hsleeps.waits.mem⟩

/-- A new attempt has a number that no other has. -/
theorem new (h : UnderWay x p₀ es dropped hand busy) (ht : e.begun? (play x p₀ es) = some t) :
    t ∉ roster dropped hand busy (play x p₀ es).underway ∧ .ask t ∉ es ∧ ¬ Done es t := by
  have hnumber : t.attempt = (play x p₀ es).sessions.attempts + 1 := by
    cases e with
    | begin tab url trigger =>
      obtain rfl := Option.some.inj ht
      rfl
    | _ => cases ht
  have hnew : ∀ {ok}, ¬ Began x p₀ es t ok := by
    intro ok hbegan
    have hle := hbegan.attempt_le
    omega
  refine ⟨?_, fun hask => hnew (h.lawful.began_of_ask hask), ?_⟩
  · intro hmem
    obtain ⟨ok, hok⟩ := h.began_of_mem hmem
    exact hnew hok
  · intro hdone
    obtain ⟨ok, hok⟩ := h.lawful.began_of_done hdone
    exact hnew hok

/-- The attempt whose turn it is has no task, is not waited for, and is run. -/
theorem fresh (h : UnderWay x p₀ es dropped hand (some t)) :
    t ∉ dropped ++ (hand.map (·.1) ++ (play x p₀ es).underway.tasks.map (·.1)) :=
  (List.nodup_cons.1 (List.perm_middle.nodup_iff.1 h.distinct)).1

theorem ne_of_dropped (h : UnderWay x p₀ es dropped hand (some t)) {u : Ticket} (hu : u ∈ dropped) : t ≠ u := by
  rintro rfl
  exact h.fresh (List.mem_append_left _ hu)

theorem ne_of_ready (h : UnderWay x p₀ es dropped hand (some t)) {u : Ticket}
    (hu : (u, s) ∈ (play x p₀ es).underway.ready) : t ≠ u := by
  rintro rfl
  have hmem : t ∈ (play x p₀ es).underway.tasks.map (·.1) :=
    List.mem_map.2 ⟨(t, s), List.mem_append_left _ hu, rfl⟩
  exact h.fresh (List.mem_append_right _ (List.mem_append_right _ hmem))

theorem ne_of_asleep (h : UnderWay x p₀ es dropped hand (some t)) {z : Sleeper (Ticket × Stage)}
    (hz : z ∈ (play x p₀ es).underway.asleep) : t ≠ z.task.1 := by
  intro heq
  have hmem : t ∈ (play x p₀ es).underway.tasks.map (·.1) :=
    List.mem_map.2 ⟨z.task, List.mem_append_right _ (List.mem_map.2 ⟨z, hz, rfl⟩), heq.symm⟩
  exact h.fresh (List.mem_append_right _ (List.mem_append_right _ hmem))

theorem ne_of_handed (h : UnderWay x p₀ es dropped hand (some t)) {u : Ticket} (hu : (u, a, due) ∈ hand) : t ≠ u := by
  rintro rfl
  exact h.fresh (List.mem_append_right _ (List.mem_append_left _ (List.mem_map.2 ⟨(t, a, due), hu, rfl⟩)))

/-- Only the attempt whose turn it is may go on, and then all others are as they were; a new attempt is not run yet. -/
theorem event (h : UnderWay x p₀ es dropped hand busy) (fits : Fits x p₀ es e)
    (hbusy : ∀ u, e.attempt? = some u → busy = some u) (hr : ∀ tab, e ≠ .release tab)
    (hunder : (play x p₀ (es ++ [e])).underway = (play x p₀ es).underway)
    (hheld : ∀ t ∈ (play x p₀ (es ++ [e])).source.held, t ∈ (play x p₀ es).source.held ∨
      0 < x.fetchLimit ∧ e = .ask t ∧ (play x p₀ es).source.promise t.tab = .onRelease)
    (hreleased : ∀ t ∈ (play x p₀ (es ++ [e])).source.released, t ∈ (play x p₀ es).source.released)
    (hkept : ∀ t ∈ (play x p₀ es).source.released, e.attempt? ≠ some t → t ∈ (play x p₀ (es ++ [e])).source.released) :
    UnderWay x p₀ (es ++ [e]) ((e.begun? (play x p₀ es)).toList ++ dropped) hand busy where
  lawful := lawful_snoc.2 ⟨h.lawful, fits⟩
  ready t s hts := by
    rw [hunder] at hts
    have hne : e.attempt? ≠ some t := by
      intro he
      obtain rfl := hbusy t he
      exact h.ne_of_ready hts rfl
    exact (h.ready t s hts).snoc hne (now_congr hunder) hr fun ht => hkept t ht hne
  asleep z hz := by
    rw [hunder] at hz
    obtain ⟨t, a, due, rfl, hsleeps, hlt⟩ := h.asleep z hz
    have hne : e.attempt? ≠ some t := by
      intro he
      obtain rfl := hbusy t he
      exact h.ne_of_asleep hz rfl
    refine ⟨t, a, due, rfl, hsleeps.snoc hne hr, lt_of_eq_of_lt (now_congr hunder) hlt⟩
  handed t a due ht := by
    have hne : e.attempt? ≠ some t := by
      intro he
      obtain rfl := hbusy t he
      exact h.ne_of_handed ht rfl
    exact (h.handed t a due ht).snoc hne hr
  engaged t ht := by
    rw [List.append_assoc] at ht
    rcases List.mem_append.1 ht with ht | ht
    · exact began_of_begun? (Option.mem_toList.1 ht)
    · obtain ⟨ok, hbegan⟩ := h.engaged t ht
      exact ⟨ok, hbegan.append [e]⟩
  idle t ht := by
    have hold : (.ask t ∉ es ∧ ¬ Done es t) ∧ e.attempt? ≠ some t := by
      rcases List.mem_append.1 ht with ht | ht
      · refine ⟨(h.new (Option.mem_toList.1 ht)).2, fun he => ?_⟩
        cases e with
        | begin tab url trigger => cases he
        | _ => cases ht
      · refine ⟨h.idle t ht, fun he => ?_⟩
        obtain rfl := hbusy t he
        exact h.ne_of_dropped ht rfl
    obtain ⟨⟨hunasked, hundone⟩, hne⟩ := hold
    exact ⟨not_asked_snoc hunasked (ne_ask_of_attempt? hne), not_done_snoc hundone (ne_finish_of_attempt? hne)⟩
  distinct := by
    rw [hunder, roster, List.append_assoc]
    cases hbegun : e.begun? (play x p₀ es) with
    | none => exact h.distinct
    | some t => exact List.nodup_cons.2 ⟨(h.new hbegun).1, h.distinct⟩
  accounted t ok hbegan := by
    rw [hunder, roster, List.append_assoc]
    rcases began_snoc hbegan with hbegun | hbegan
    · exact .inr (List.mem_append_left _ (Option.mem_toList.2 hbegun))
    · rcases h.accounted t ok hbegan with ⟨ads, hads⟩ | hmem
      · exact .inl ⟨ads, List.mem_append_left _ hads⟩
      · exact .inr (List.mem_append_right _ hmem)
  fetches := h.fetches.snoc fits hr hheld hreleased

/-- Most events leave all attempts alone. -/
theorem plain (h : UnderWay x p₀ es dropped hand busy) (he : e.stirs = false) (fits : Fits x p₀ es e)
    (hbusy : ∀ u, e.attempt? = some u → busy = some u) :
    UnderWay x p₀ (es ++ [e]) ((e.begun? (play x p₀ es)).toList ++ dropped) hand busy := by
  obtain ⟨hunder, hheld, hreleased⟩ := perform_underway x (play x p₀ es) he
  rw [← play_snoc] at hunder hheld hreleased
  refine h.event fits hbusy (fun tab hr => ?_) hunder (fun t ht => .inl (hheld ▸ ht)) (fun t ht => hreleased ▸ ht)
    fun t ht _ => hreleased ▸ ht
  subst hr
  cases he

/-- An event that goes on with no attempt leaves them all alone. -/
theorem aside (h : UnderWay x p₀ es dropped hand busy) (he : e.stirs = false) (hnone : e.attempt? = none) :
    UnderWay x p₀ (es ++ [e]) ((e.begun? (play x p₀ es)).toList ++ dropped) hand busy := by
  refine h.plain he ?_ fun u hu => ?_
  · cases e <;> trivial
  · rw [hnone] at hu
    cases hu

/-- An event that leaves the roster alone, but for its order, leaves everything the roster says. -/
theorem roster_snoc (h : UnderWay x p₀ es dropped hand busy) (he : e.attempt? = none)
    (hbegun : e.begun? (play x p₀ es) = none)
    (hperm : (roster dropped hand busy' (play x p₀ (es ++ [e])).underway).Perm
      (roster dropped hand busy (play x p₀ es).underway)) :
    (∀ t ∈ dropped ++ busy'.toList, ∃ ok, Began x p₀ (es ++ [e]) t ok) ∧
      (∀ t ∈ dropped, .ask t ∉ es ++ [e] ∧ ¬ Done (es ++ [e]) t) ∧
      (roster dropped hand busy' (play x p₀ (es ++ [e])).underway).Nodup ∧
      ∀ t ok, Began x p₀ (es ++ [e]) t ok →
        Done (es ++ [e]) t ∨ t ∈ roster dropped hand busy' (play x p₀ (es ++ [e])).underway := by
  refine ⟨?_, ?_, hperm.nodup_iff.2 h.distinct, ?_⟩
  · intro t ht
    have hmem : t ∈ roster dropped hand busy' (play x p₀ (es ++ [e])).underway := by
      rw [roster, ← List.append_assoc]
      exact List.mem_append_left _ ht
    obtain ⟨ok, hbegan⟩ := h.began_of_mem (hperm.mem_iff.1 hmem)
    exact ⟨ok, hbegan.append [e]⟩
  · intro t ht
    obtain ⟨hunasked, hundone⟩ := h.idle t ht
    have hne : e.attempt? ≠ some t := by simp [he]
    exact ⟨not_asked_snoc hunasked (ne_ask_of_attempt? hne), not_done_snoc hundone (ne_finish_of_attempt? hne)⟩
  · intro t ok hbegan
    rcases began_snoc hbegan with hnew | hbegan
    · rw [hbegun] at hnew
      cases hnew
    · rcases h.accounted t ok hbegan with ⟨ads, hads⟩ | hmem
      · exact .inl ⟨ads, List.mem_append_left _ hads⟩
      · exact .inr (hperm.mem_iff.2 hmem)

/-- Tasks may be rearranged, if who is ready and who waits is in order, and all are there. -/
theorem arrange (h : UnderWay x p₀ es dropped hand busy) {a : Agenda Task}
    (hnow : a.now = (play x p₀ es).agenda.now)
    (ready : ∀ t s, (t, s) ∈ (a.pick Task.attempt?).ready → Ready x p₀ es t s)
    (asleep : ∀ z ∈ (a.pick Task.attempt?).asleep, ∃ t b due, z = ⟨some due, (t, .fetching b)⟩ ∧ Sleeps x p₀ es t b due ∧
      (play x p₀ es).agenda.now < due)
    (hperm : (roster dropped hand busy' (a.pick Task.attempt?)).Perm (roster dropped hand busy (play x p₀ es).underway)) :
    UnderWay x p₀ (es ++ [.arrange a]) dropped hand busy' := by
  have hplay : play x p₀ (es ++ [.arrange a]) = { play x p₀ es with agenda := a } := play_snoc p₀ es _
  have hunder : (play x p₀ (es ++ [.arrange a])).underway = a.pick Task.attempt? := by
    rw [hplay]
    rfl
  obtain ⟨engaged, idle, distinct, accounted⟩ := h.roster_snoc (e := .arrange a) rfl rfl (hunder ▸ hperm)
  refine ⟨lawful_snoc.2 ⟨h.lawful, trivial⟩, ?_, ?_, ?_, engaged, idle, distinct, accounted, h.fetches.arrange a⟩
  · intro t s hts
    rw [hunder] at hts
    exact (ready t s hts).arrange hnow
  · intro z hz
    rw [hunder] at hz
    obtain ⟨t, b, due, rfl, hsleeps, hlt⟩ := asleep z hz
    exact ⟨t, b, due, rfl, hsleeps.arrange a, by rw [hplay]; exact lt_of_eq_of_lt hnow hlt⟩
  · intro t b due ht
    exact (h.handed t b due ht).arrange a

/-- Rearranging other tasks is nothing to the attempts. -/
theorem rearranged (h : UnderWay x p₀ es dropped hand busy) {a : Agenda Task}
    (ha : a.pick Task.attempt? = (play x p₀ es).underway) : UnderWay x p₀ (es ++ [.arrange a]) dropped hand busy :=
  h.arrange (now_congr (q := { play x p₀ es with agenda := a }) ha) (ha ▸ h.ready) (ha ▸ h.asleep) (ha ▸ .refl _)

/-- The first ready task has its turn. -/
theorem taken (h : UnderWay x p₀ es dropped hand none) {t : Ticket} {s : Stage} {rest : List Task}
    (hr : (play x p₀ es).agenda.ready = .ingest t s :: rest) :
    UnderWay x p₀ (es ++ [.arrange { (play x p₀ es).agenda with ready := rest }]) dropped hand (some t) ∧
      Ready x p₀ (es ++ [.arrange { (play x p₀ es).agenda with ready := rest }]) t s := by
  have hready : (play x p₀ es).underway.ready = (t, s) :: rest.filterMap Task.attempt? := by
    simp [underway, Agenda.pick, hr, Task.attempt?]
  have hfirst : Ready x p₀ es t s := h.ready t s (hready ▸ List.mem_cons_self)
  refine ⟨h.arrange rfl ?_ h.asleep ?_, ?_⟩
  · intro u s' hu
    exact h.ready u s' (hready ▸ List.mem_cons_of_mem _ hu)
  · refine List.Perm.append_left dropped ?_
    simp only [Option.toList_none, Option.toList_some, List.nil_append, Agenda.tasks, hready, List.cons_append, List.map_cons]
    exact List.perm_middle.symm
  · exact hfirst.arrange rfl

/-- An attempt that waits goes to sleep until its time. -/
theorem slept (h : UnderWay x p₀ es dropped hand (some t)) (hs : Sleeps x p₀ es t a due)
    (hlt : (play x p₀ es).agenda.now < due) :
    UnderWay x p₀ (es ++ [.arrange ((play x p₀ es).agenda.sleepUntil due (.ingest t (.fetching a)))]) dropped hand none := by
  have hpick : ((play x p₀ es).agenda.sleepUntil due (.ingest t (.fetching a))).pick Task.attempt? =
      { (play x p₀ es).underway with asleep := (play x p₀ es).underway.asleep ++ [⟨some due, (t, .fetching a)⟩] } := by
    rw [Agenda.pick_sleepUntil]
    rfl
  refine h.arrange rfl ?_ ?_ ?_
  · rw [hpick]
    exact h.ready
  · rw [hpick]
    intro z hz
    rcases List.mem_append.1 hz with hz | hz
    · exact h.asleep z hz
    · exact ⟨t, a, due, List.mem_singleton.1 hz, hs, hlt⟩
  · rw [hpick]
    refine List.Perm.append_left dropped ?_
    simp only [Option.toList_none, Option.toList_some, List.nil_append, List.cons_append, Agenda.tasks, List.map_append,
      List.map_cons, List.map_nil, ← List.append_assoc]
    exact List.perm_append_singleton t _

/-- A new attempt goes to the end of the line. -/
theorem spawned (h : UnderWay x p₀ es dropped hand (some t)) (hs : Ready x p₀ es t s) :
    UnderWay x p₀ (es ++ [.arrange ((play x p₀ es).agenda.spawn (.ingest t s))]) dropped hand none := by
  have hpick : ((play x p₀ es).agenda.spawn (.ingest t s)).pick Task.attempt? = (play x p₀ es).underway.spawn (t, s) := by
    rw [Agenda.pick_spawn]
    rfl
  refine h.arrange rfl ?_ ?_ ?_
  · rw [hpick]
    intro u s' hu
    rcases List.mem_append.1 hu with hu | hu
    · exact h.ready u s' hu
    · obtain ⟨rfl, rfl⟩ := Prod.mk.inj (List.mem_singleton.1 hu)
      exact hs
  · rw [hpick]
    exact h.asleep
  · rw [hpick]
    refine List.Perm.append_left dropped ?_
    refine (((Agenda.tasks_spawn _ (t, s)).map _).append_left _).trans ?_
    simp only [List.map_append, List.map_cons, List.map_nil, ← List.append_assoc, Option.toList_some, List.nil_append,
      List.cons_append]
    exact List.perm_append_singleton t _

/-- A new attempt that is run has its turn. -/
theorem engage (h : UnderWay x p₀ es (t :: dropped) hand none) : UnderWay x p₀ es dropped hand (some t) := by
  have hperm : (roster dropped hand (some t) (play x p₀ es).underway).Perm
      (roster (t :: dropped) hand none (play x p₀ es).underway) := List.perm_middle
  exact { h with
    engaged := fun u hu => h.began_of_mem (hperm.mem_iff.1 (by
      rw [roster, ← List.append_assoc]
      exact List.mem_append_left _ hu))
    idle := fun u hu => h.idle u (List.mem_cons_of_mem t hu)
    distinct := hperm.nodup_iff.2 h.distinct
    accounted := fun u ok hu => (h.accounted u ok hu).imp_right hperm.mem_iff.2 }

/-- The attempt whose turn it was has ended. -/
theorem leave (h : UnderWay x p₀ es dropped hand (some t)) (hdone : Done es t) : UnderWay x p₀ es dropped hand none :=
  { h with
    engaged := fun u hu => h.engaged u (by
      rw [Option.toList_none, List.append_nil] at hu
      exact List.mem_append_left _ hu)
    distinct := h.distinct.sublist ((List.Sublist.refl _).append (List.sublist_append_right _ _))
    accounted := by
      intro u ok hu
      rcases h.accounted u ok hu with hend | hmem
      · exact .inl hend
      · rcases List.mem_cons.1 (List.perm_middle.mem_iff.1 hmem) with rfl | hmem
        · exact .inl hdone
        · exact .inr hmem }

/-- An attempt that waits is waited for, instead of having a task of its own. -/
theorem hold (h : UnderWay x p₀ es dropped [] (some t)) (hs : Sleeps x p₀ es t a due) :
    UnderWay x p₀ es dropped [(t, a, due)] none :=
  { h with
    handed := by
      intro u b d hu
      cases List.mem_singleton.1 hu
      exact hs
    engaged := fun u hu => h.engaged u (by
      rw [Option.toList_none, List.append_nil] at hu
      exact List.mem_append_left _ hu)
    distinct := h.distinct
    accounted := h.accounted }

/-- Who was waited for has its turn when its time has come. -/
theorem resume (h : UnderWay x p₀ es dropped [(t, a, due)] none) (hnow : (play x p₀ es).agenda.now = due) :
    UnderWay x p₀ es dropped [] (some t) ∧ Ready x p₀ es t (.fetching a) := by
  have hsleeps := h.handed t a due List.mem_cons_self
  refine ⟨{ h with handed := nofun, engaged := ?_, distinct := h.distinct, accounted := h.accounted }, .due hsleeps hnow⟩
  intro u hu
  rcases List.mem_append.1 hu with hu | hu
  · exact h.engaged u (List.mem_append_left _ hu)
  · obtain rfl := List.mem_singleton.1 hu
    exact ⟨true, h.lawful.began_of_ask hsleeps.waits.mem⟩

end UnderWay

end AdConfirm.Pipeline
