import AdConfirm.Proofs.Pipeline.UnderWay

/-!
An ingestion attempt from its beginning to its end.

- `begins`: a new attempt has a number that no other has, and may have its turn.
- `asks`: an attempt that asks for its page knows how long it will wait at most, and for what.
- `moves`: the clock goes to the next time that a task waits for, and wakes the attempts whose time that is.
- `releases`: letting a page go wakes the attempt that waits for it.
- `Ready.ends`, `concludes`: an attempt that is done waiting knows whether its page has come, and ends as it should.
-/

namespace AdConfirm.Pipeline

open AdConfirm.Tab (Ticket Waiting)

namespace Source

variable (s : Source)

/-- how long a fetch waits at most and how it ends follows from when its page comes -/
theorem ask_eq (limit : Nat) (t : Ticket) :
    (s.ask limit t).2 = match s.promise t.tab with
      | .within ms => if ms ≤ limit then (ms, .arrives) else (limit, .cutOff)
      | .onRelease => if limit = 0 then (0, .cutOff) else (limit, .ifReleased)
      | .never => (limit, .cutOff) := by
  unfold ask promise
  cases s.delay t.tab with
  | none => simp
  | after ms =>
    simp only
    split_ifs <;> rfl
  | endless => rfl
  | held =>
    simp only
    split_ifs <;> simp

/-- a fetch that waits for its release is held back -/
theorem ask_held (limit : Nat) (t : Ticket) :
    (s.ask limit t).1.released = s.released ∧
      ∀ u ∈ (s.ask limit t).1.held, u ∈ s.held ∨ 0 < limit ∧ u = t ∧ s.promise t.tab = .onRelease := by
  unfold ask promise
  cases s.delay t.tab with
  | none => exact ⟨rfl, fun u hu => .inl hu⟩
  | after ms =>
    simp only
    split_ifs <;> exact ⟨rfl, fun u hu => .inl hu⟩
  | endless => exact ⟨rfl, fun u hu => .inl hu⟩
  | held =>
    simp only
    split_ifs with hpermit hlimit
    · exact ⟨rfl, fun u hu => .inl hu⟩
    · exact ⟨rfl, fun u hu => .inl hu⟩
    · refine ⟨rfl, fun u hu => ?_⟩
      rcases List.mem_append.1 hu with hu | hu
      · exact .inl hu
      · exact .inr ⟨Nat.pos_of_ne_zero hlimit, List.mem_singleton.1 hu, rfl⟩

theorem conclude_kept (t : Ticket) (a : Arrival) :
    (∀ u ∈ (s.conclude t a).1.held, u ∈ s.held) ∧ (∀ u ∈ (s.conclude t a).1.released, u ∈ s.released) ∧
      (∀ u ∈ s.released, t ≠ u → u ∈ (s.conclude t a).1.released) := by
  cases a with
  | ifReleased =>
    simp only [conclude]
    split
    · exact ⟨fun u hu => hu, fun u hu => (List.mem_filter.1 hu).1,
        fun u hu hne => List.mem_filter.2 ⟨hu, by simpa using hne.symm⟩⟩
    · exact ⟨fun u hu => (List.mem_filter.1 hu).1, fun u hu => hu, fun u hu _ => hu⟩
  | _ => exact ⟨fun u hu => hu, fun u hu => hu, fun u hu _ => hu⟩

theorem mem_of_release {tab : String} {t : Ticket} (h : (s.release tab).2 = some t) : t ∈ s.held ∧ t.tab = tab := by
  unfold release at h
  split at h
  · next u hu =>
    obtain rfl := Option.some.inj h
    exact ⟨List.mem_of_find?_eq_some hu, by simpa using List.find?_some hu⟩
  · cases h

/-- who is let go is not held back any more -/
theorem mem_release_held {tab : String} {u : Ticket} :
    u ∈ (s.release tab).1.held ↔ u ∈ s.held ∧ (s.release tab).2 ≠ some u := by
  unfold release
  split
  · next t _ =>
    rw [List.mem_filter, decide_eq_true_eq, ne_eq, ne_eq, Option.some_inj]
    exact and_congr_right fun _ => ne_comm
  · simp only
    split <;> simp

/-- who is let go is released from then on -/
theorem mem_release_released {tab : String} {u : Ticket} :
    u ∈ (s.release tab).1.released ↔ u ∈ s.released ∨ (s.release tab).2 = some u := by
  unfold release
  split
  · next t _ => rw [List.mem_append, List.mem_singleton, Option.some_inj, eq_comm (a := t)]
  · simp only
    split <;> simp

end Source

variable {x : Setup} {p₀ p : Pipeline} {es fs : List Event} {t : Ticket} {e : Event} {a : Arrival} {due : Nat} {s : Stage}
  {dropped : List Ticket} {hand : List (Ticket × Arrival × Nat)} {busy : Option Ticket}

namespace UnderWay

/-- A new attempt has a number that no other has, and may have its turn if it is run. -/
theorem begins (h : UnderWay x p₀ es dropped hand none) (tab : String) (url : Url) (trigger : Bool) :
    UnderWay x p₀ (es ++ [.begin tab url trigger]) (((play x p₀ es).sessions.begin tab).2 :: dropped) hand none ∧
      Ready x p₀ (es ++ [.begin tab url trigger]) ((play x p₀ es).sessions.begin tab).2
        (.begun (mayAsk x (play x p₀ es) url trigger)) := by
  have hbegun : UnderWay x p₀ (es ++ [.begin tab url trigger]) (((play x p₀ es).sessions.begin tab).2 :: dropped) hand none :=
    h.aside (e := .begin tab url trigger) rfl rfl
  obtain ⟨hunasked, hundone⟩ := hbegun.idle _ List.mem_cons_self
  exact ⟨hbegun, .begun (ever_snoc.2 (.inl ⟨url, trigger, rfl, rfl, rfl⟩)) hunasked hundone⟩

/-- An attempt that asks for its page sleeps from then on, for as long as the source says. -/
theorem asks (h : UnderWay x p₀ es dropped hand (some t)) (hr : Ready x p₀ es t (.begun true)) :
    UnderWay x p₀ (es ++ [.ask t]) dropped hand (some t) ∧
      Sleeps x p₀ (es ++ [.ask t]) t ((play x p₀ es).source.ask x.fetchLimit t).2.2
        ((play x p₀ es).agenda.now + ((play x p₀ es).source.ask x.fetchLimit t).2.1) := by
  cases hr with
  | begun began unasked undone =>
    have hplay : play x p₀ (es ++ [.ask t]) = ask x (play x p₀ es) t := play_snoc p₀ es _
    obtain ⟨hreleased, hheld⟩ := (play x p₀ es).source.ask_held x.fetchLimit t
    have hasked : AskedAt x p₀ (es ++ [.ask t]) t (play x p₀ es).agenda.now ((play x p₀ es).source.promise t.tab) :=
      ever_snoc.2 (.inl ⟨rfl, rfl, rfl⟩)
    refine ⟨h.event ⟨began, unasked, undone⟩ (fun u hu => hu) (by simp) (by rw [hplay]; rfl) ?_ ?_ ?_, ?_, ?_, ?_⟩
    · rw [hplay]
      intro u hu
      rcases hheld u hu with hu | ⟨hlimit, rfl, hpromise⟩
      · exact .inl hu
      · exact .inr ⟨hlimit, rfl, hpromise⟩
    · rw [hplay]
      exact fun u hu => hreleased ▸ hu
    · rw [hplay]
      exact fun u hu _ => hreleased.symm ▸ hu
    · rw [Source.ask_eq]
      cases hpromise : (play x p₀ es).source.promise t.tab with
      | within ms =>
        rw [hpromise] at hasked
        by_cases hms : ms ≤ x.fetchLimit
        · simp only [if_pos hms]
          exact .arrives hasked hms
        · simp only [if_neg hms]
          exact .tooLate hasked (by omega)
      | onRelease =>
        rw [hpromise] at hasked
        by_cases hlimit : x.fetchLimit = 0
        · simp only [if_pos hlimit]
          have hwaits := Awaits.atOnce hasked hlimit
          rwa [hlimit] at hwaits
        · simp only [if_neg hlimit]
          exact .held hasked
      | never =>
        rw [hpromise] at hasked
        exact .never hasked
    · exact not_done_snoc undone (by simp)
    · intro time hgo
      exact unasked (h.fetches.asked t time ((letGo_snoc_of_ne (e := .ask t) (by simp)).1 hgo))

/-- The clock may go to the next time that a task waits for; the attempts whose time that is are woken. -/
theorem moves (h : UnderWay x p₀ es dropped hand none) {time : Nat} (hquiet : (play x p₀ es).agenda.ready = [])
    (hnext : ∀ next, (play x p₀ es).agenda.nextDue? = some next → time ≤ next) :
    UnderWay x p₀ (es ++ [.arrange ((play x p₀ es).agenda.moveTo time)]) dropped hand none := by
  have hplay : play x p₀ (es ++ [.arrange ((play x p₀ es).agenda.moveTo time)]) =
      { play x p₀ es with agenda := (play x p₀ es).agenda.moveTo time } := play_snoc p₀ es _
  have hunder : (play x p₀ (es ++ [.arrange ((play x p₀ es).agenda.moveTo time)])).underway =
      (play x p₀ es).underway.moveTo time := by
    rw [hplay]
    exact Agenda.pick_moveTo time
  have hnow : (play x p₀ (es ++ [.arrange ((play x p₀ es).agenda.moveTo time)])).agenda.now = time := by
    rw [hplay]
    rfl
  have hready : (play x p₀ es).underway.ready = [] := by simp [underway, Agenda.pick, hquiet]
  -- nobody who waits for a time is passed over
  have hle : ∀ {t b due}, (⟨some due, (t, .fetching b)⟩ : Sleeper (Ticket × Stage)) ∈ (play x p₀ es).underway.asleep →
      (play x p₀ es).agenda.now < due → time ≤ due := by
    intro t b due hz hlt
    obtain ⟨z, hz, hread⟩ := List.mem_filterMap.1 hz
    obtain ⟨u, -, hu⟩ := Option.map_eq_some_iff.1 hread
    have hdue : z.due = some due := congrArg Sleeper.due hu
    obtain ⟨next, hmin, hnext'⟩ := Agenda.nextDue?_le hz hdue hlt
    exact (hnext next hmin).trans hnext'
  have hperm : (roster dropped hand none (play x p₀ (es ++ [.arrange ((play x p₀ es).agenda.moveTo time)])).underway).Perm
      (roster dropped hand none (play x p₀ es).underway) := by
    rw [hunder]
    exact ((((Agenda.tasks_moveTo _ time).map _).append_left _).append_left _).append_left _
  obtain ⟨engaged, idle, distinct, accounted⟩ :=
    h.roster_snoc (e := .arrange ((play x p₀ es).agenda.moveTo time)) rfl rfl hperm
  refine ⟨lawful_snoc.2 ⟨h.lawful, trivial⟩, ?_, ?_, ?_, engaged, idle, distinct, accounted, h.fetches.arrange _⟩
  · intro t s hts
    rw [hunder, Agenda.moveTo, Agenda.wakeIf, hready, List.nil_append] at hts
    obtain ⟨z, hz, hzt⟩ := List.mem_map.1 hts
    obtain ⟨hz, hdue⟩ := List.mem_filter.1 hz
    obtain ⟨u, b, due, rfl, hsleeps, hlt⟩ := h.asleep z hz
    cases hzt
    have hge : due ≤ time := by simpa [Agenda.isDue] using hdue
    exact .due (hsleeps.arrange _) (hnow.trans (le_antisymm (hle hz hlt) hge))
  · intro z hz
    rw [hunder] at hz
    obtain ⟨hz, hdue⟩ := List.mem_filter.1 hz
    obtain ⟨u, b, due, rfl, hsleeps, hlt⟩ := h.asleep z hz
    have hgt : time < due := by simpa [Agenda.isDue] using hdue
    exact ⟨u, b, due, rfl, hsleeps.arrange _, lt_of_eq_of_lt hnow hgt⟩
  · intro t b due ht
    exact (h.handed t b due ht).arrange _

end UnderWay

/-! ## Letting a page go -/

theorem letGo_release {tab : String} {time : Nat} :
    LetGo x p₀ (es ++ [.release tab]) t time ↔
      (((play x p₀ es).source.release tab).2 = some t ∧ (play x p₀ es).agenda.now = time) ∨ LetGo x p₀ es t time := by
  rw [letGo_snoc]
  refine or_congr_left ⟨?_, ?_⟩
  · rintro ⟨htab, hpick, hnow⟩
    obtain rfl : tab = t.tab := by simpa using htab
    exact ⟨hpick, hnow⟩
  · rintro ⟨hpick, hnow⟩
    obtain ⟨-, rfl⟩ := (play x p₀ es).source.mem_of_release hpick
    exact ⟨rfl, hpick, hnow⟩

theorem Sleeps.release (h : Sleeps x p₀ es t a due) {tab : String} (hne : ((play x p₀ es).source.release tab).2 ≠ some t) :
    Sleeps x p₀ (es ++ [.release tab]) t a due where
  waits := h.waits.append _
  undone := not_done_snoc h.undone (by simp)
  unreleased time hgo := (letGo_release.1 hgo).elim (fun hpick => hne hpick.1) (h.unreleased time)

/-- Who is let go was held back, and was not let go before. -/
theorem Fetches.release (h : Fetches x p₀ es) (tab : String)
    (hsource : (play x p₀ (es ++ [.release tab])).source = ((play x p₀ es).source.release tab).1) :
    Fetches x p₀ (es ++ [.release tab]) where
  held u hu := by
    rw [hsource, Source.mem_release_held] at hu
    obtain ⟨hlimit, ⟨since, hasked⟩, hkept⟩ := h.held u hu.1
    refine ⟨hlimit, ⟨since, hasked.append _⟩, fun time hgo => ?_⟩
    rcases letGo_release.1 hgo with ⟨hpick, -⟩ | hgo
    · exact hu.2 hpick
    · exact hkept time hgo
  released u hu := by
    rw [hsource, Source.mem_release_released] at hu
    rcases hu with hu | hpick
    · obtain ⟨time, hgo⟩ := h.released u hu
      exact ⟨time, hgo.append _⟩
    · exact ⟨_, letGo_release.2 (.inl ⟨hpick, rfl⟩)⟩
  asked u time hgo := by
    rcases letGo_release.1 hgo with ⟨hpick, -⟩ | hgo
    · obtain ⟨-, ⟨since, hasked⟩, -⟩ := h.held u ((play x p₀ es).source.mem_of_release hpick).1
      exact List.mem_append_left _ hasked.mem
    · exact List.mem_append_left _ (h.asked u time hgo)
  once u time time' hgo hgo' := by
    have before : ∀ {time}, ((play x p₀ es).source.release tab).2 = some u → ¬ LetGo x p₀ es u time :=
      fun hpick => (h.held u ((play x p₀ es).source.mem_of_release hpick).1).2.2 _
    rcases letGo_release.1 hgo with ⟨hpick, hnow⟩ | hgo
    · rcases letGo_release.1 hgo' with ⟨-, hnow'⟩ | hgo'
      · exact hnow.symm.trans hnow'
      · exact absurd hgo' (before hpick)
    · rcases letGo_release.1 hgo' with ⟨hpick, -⟩ | hgo'
      · exact absurd hgo (before hpick)
      · exact h.once u time time' hgo hgo'

theorem release_source (p : Pipeline) (tab : String) : (p.release tab).source = (p.source.release tab).1 := by
  unfold release
  generalize p.source.release tab = c
  obtain ⟨source, t⟩ := c
  cases t <;> rfl

def isFetchOf (t : Ticket) (z : Sleeper (Ticket × Stage)) : Bool := isFetch t (.ingest z.task.1 z.task.2)

theorem release_underway (p : Pipeline) (tab : String) :
    (p.release tab).underway = match (p.source.release tab).2 with
      | none => p.underway
      | some t => p.underway.wakeIf (isFetchOf t) := by
  unfold release
  generalize p.source.release tab = c
  obtain ⟨source, t⟩ := c
  cases t with
  | none => rfl
  | some t =>
    refine Agenda.pick_wakeIf fun z u hz => ?_
    cases htask : z.task <;> simp [htask, Task.attempt?] at hz
    rw [← hz]
    rfl

namespace UnderWay

/-- Letting a page go gives the attempt that waits for it its turn, and is nothing to the others. -/
theorem releases (h : UnderWay x p₀ es dropped [] none) (tab : String) :
    UnderWay x p₀ (es ++ [.release tab]) dropped [] none := by
  have hplay : play x p₀ (es ++ [.release tab]) = (play x p₀ es).release tab := play_snoc p₀ es _
  have hsource := (play x p₀ es).release_source tab
  have hunder := (play x p₀ es).release_underway tab
  rw [← hplay] at hsource hunder
  have hnow : (play x p₀ (es ++ [.release tab])).agenda.now = (play x p₀ es).agenda.now := by
    have hclock := congrArg Agenda.now hunder
    cases hpick : ((play x p₀ es).source.release tab).2 with
    | none =>
      rw [hpick] at hclock
      exact hclock
    | some v =>
      rw [hpick] at hclock
      exact hclock
  -- who is picked waits for its release, and so may have its turn now
  have hpicked : ∀ {u b due}, ((play x p₀ es).source.release tab).2 = some u → Sleeps x p₀ es u b due →
      (play x p₀ es).agenda.now ≤ due → Ready x p₀ (es ++ [.release tab]) u (.fetching b) := by
    intro u b due hpick hsleeps hle
    obtain ⟨hlimit, ⟨since, hasked⟩, -⟩ := h.fetches.held u ((play x p₀ es).source.mem_of_release hpick).1
    obtain rfl := hsleeps.waits.eq_ifReleased h.lawful hasked hlimit
    have hreleased : u ∈ (play x p₀ (es ++ [.release tab])).source.released := by
      rw [hsource, Source.mem_release_released]
      exact .inr hpick
    exact .letGo (hsleeps.waits.append _) (not_done_snoc hsleeps.undone (by simp)) (letGo_release.2 (.inl ⟨hpick, hnow.symm⟩))
      hreleased (hnow ▸ hle)
  have hready : ∀ u s, Ready x p₀ es u s → Ready x p₀ (es ++ [.release tab]) u s := by
    intro u s hu
    cases hu with
    | begun began unasked undone =>
      exact .begun (began.append _) (not_asked_snoc unasked (by simp)) (not_done_snoc undone (by simp))
    | due sleeps now =>
      by_cases hpick : ((play x p₀ es).source.release tab).2 = some u
      · exact hpicked hpick sleeps now.le
      · exact .due (sleeps.release hpick) (hnow.trans now)
    | letGo waits undone letGo released inTime =>
      have hreleased : u ∈ (play x p₀ (es ++ [.release tab])).source.released := by
        rw [hsource, Source.mem_release_released]
        exact .inl released
      exact .letGo (waits.append _) (not_done_snoc undone (by simp)) (hnow ▸ letGo.append _) hreleased (hnow ▸ inTime)
  have hperm : (roster dropped [] none (play x p₀ (es ++ [.release tab])).underway).Perm
      (roster dropped [] none (play x p₀ es).underway) := by
    have htasks : (play x p₀ (es ++ [.release tab])).underway.tasks.Perm (play x p₀ es).underway.tasks := by
      rw [hunder]
      cases ((play x p₀ es).source.release tab).2 with
      | none => exact .refl _
      | some v => exact Agenda.tasks_wakeIf _ _
    exact (((htasks.map _).append_left _).append_left _).append_left _
  obtain ⟨engaged, idle, distinct, accounted⟩ := h.roster_snoc (e := .release tab) rfl rfl hperm
  refine ⟨lawful_snoc.2 ⟨h.lawful, trivial⟩, ?_, ?_, nofun, engaged, idle, distinct, accounted, h.fetches.release tab hsource⟩
  · intro u s hu
    cases hpick : ((play x p₀ es).source.release tab).2 with
    | none =>
      rw [hunder, hpick] at hu
      exact hready u s (h.ready u s hu)
    | some v =>
      rw [hunder, hpick] at hu
      rcases List.mem_append.1 hu with hu | hu
      · exact hready u s (h.ready u s hu)
      · obtain ⟨z, hz, hzu⟩ := List.mem_map.1 hu
        obtain ⟨hz, hfetch⟩ := List.mem_filter.1 hz
        obtain ⟨w, b, due, rfl, hsleeps, hlt⟩ := h.asleep z hz
        cases hzu
        obtain rfl : u = v := by simpa [isFetchOf, isFetch] using hfetch
        exact hpicked hpick hsleeps hlt.le
  · intro z hz
    have hkept : z ∈ (play x p₀ es).underway.asleep ∧ ((play x p₀ es).source.release tab).2 ≠ some z.task.1 := by
      cases hpick : ((play x p₀ es).source.release tab).2 with
      | none =>
        rw [hunder, hpick] at hz
        exact ⟨hz, nofun⟩
      | some v =>
        rw [hunder, hpick] at hz
        obtain ⟨hz, hfetch⟩ := List.mem_filter.1 hz
        obtain ⟨w, b, due, rfl, -⟩ := h.asleep z hz
        refine ⟨hz, ?_⟩
        rintro ⟨⟩
        simp [isFetchOf, isFetch] at hfetch
    obtain ⟨w, b, due, rfl, hsleeps, hlt⟩ := h.asleep z hkept.1
    exact ⟨w, b, due, rfl, hsleeps.release hkept.2, lt_of_eq_of_lt hnow hlt⟩

end UnderWay

/-! ## The end of an attempt -/

/-- An attempt that is done waiting knows whether its page has come in time. -/
theorem Ready.ends (h : Ready x p₀ es t (.fetching a))
    (hreleased : ∀ u ∈ (play x p₀ es).source.released, ∃ time, LetGo x p₀ es u time) :
    Ends x p₀ es t (if ((play x p₀ es).source.conclude t a).2 then adsOfPage ((play x p₀ es).source.page? t.tab)
      else Table.empty) := by
  cases h with
  | due sleeps now =>
    cases sleeps.waits with
    | arrives asked h => exact .arrived asked rfl (by omega) now
    | tooLate asked h =>
      refine .cutOff asked (fun time hcame => ?_) now
      have htime : time = _ := hcame
      omega
    | never asked => exact .cutOff asked (fun time hcame => hcame.elim) now
    | atOnce asked h => exact .cutOff asked (fun time hcame => absurd hcame (sleeps.unreleased time)) now
    | held asked =>
      have hnot : t ∉ (play x p₀ es).source.released := by
        intro hmem
        obtain ⟨time, hgo⟩ := hreleased t hmem
        exact sleeps.unreleased time hgo
      have hconclude : ((play x p₀ es).source.conclude t .ifReleased).2 = false := by simp [Source.conclude, hnot]
      rw [hconclude]
      exact .cutOff asked (fun time hcame => absurd hcame (sleeps.unreleased time)) now
  | letGo waits undone letGo released inTime =>
    have hconclude : ((play x p₀ es).source.conclude t .ifReleased).2 = true := by simp [Source.conclude, released]
    rw [hconclude]
    cases waits with
    | held asked => exact .arrived asked letGo inTime rfl

/-- The end of a fetch touches nothing but the source and the journal. -/
theorem arrive_frame (x : Setup) (p : Pipeline) (t : Ticket) (a : Arrival) :
    (arrive x p t a).source = (p.source.conclude t a).1 ∧ (arrive x p t a).agenda = p.agenda := by
  unfold arrive
  simp only
  split <;> exact ⟨rfl, rfl⟩

/-- How an attempt ends does not depend on its fetch being over first. -/
theorem Ends.arrive {ads : AdMap} (h : Ends x p₀ es t ads) (a : Arrival) : Ends x p₀ (es ++ [.arrive t a]) t ads := by
  obtain ⟨hsource, hagenda⟩ := arrive_frame x (play x p₀ es) t a
  have hplay : play x p₀ (es ++ [.arrive t a]) = Pipeline.arrive x (play x p₀ es) t a := play_snoc p₀ es _
  rw [← hplay] at hsource hagenda
  have hnow : (play x p₀ (es ++ [.arrive t a])).agenda.now = (play x p₀ es).agenda.now := by rw [hagenda]
  have hpage : (play x p₀ (es ++ [.arrive t a])).source.page? t.tab = (play x p₀ es).source.page? t.tab := by
    rw [hsource, Source.conclude_page?]
  have hcame : ∀ {since promise time},
      Came x p₀ (es ++ [.arrive t a]) t since promise time ↔ Came x p₀ es t since promise time := by
    intro since promise time
    cases promise with
    | onRelease => exact letGo_snoc_of_ne (e := .arrive t a) (by simp)
    | _ => rfl
  cases h with
  | gatedOff began unasked =>
    exact .gatedOff (began.append _) (not_asked_snoc unasked (by simp))
  | arrived asked came inTime now =>
    rw [← hpage]
    exact .arrived (asked.append _) (hcame.2 came) inTime (hnow.trans now)
  | cutOff asked missing now =>
    exact .cutOff (asked.append _) (fun time h => missing time (hcame.1 h)) (hnow.trans now)

theorem Ready.undone (h : Ready x p₀ es t s) : ¬ Done es t := by
  cases h with
  | begun _ _ undone => exact undone
  | due sleeps _ => exact sleeps.undone
  | letGo _ undone => exact undone

namespace UnderWay

/-- An attempt whose turn it is may end as it should. -/
theorem finishes (h : UnderWay x p₀ es dropped hand (some t)) {ads : AdMap} (undone : ¬ Done es t) (ends : Ends x p₀ es t ads) :
    UnderWay x p₀ (es ++ [.finish t ads]) dropped hand none :=
  (h.plain (e := .finish t ads) rfl ⟨undone, ends⟩ fun _ hu => hu).leave ⟨ads, by simp⟩

/-- An attempt whose fetch is over ends as it should. -/
theorem concludes (h : UnderWay x p₀ es dropped hand (some t)) (hr : Ready x p₀ es t (.fetching a)) :
    ∃ ads, conclude x (play x p₀ es) t a = play x p₀ (es ++ [.arrive t a, .finish t ads]) ∧
      UnderWay x p₀ (es ++ [.arrive t a, .finish t ads]) dropped hand none := by
  obtain ⟨hsource, hagenda⟩ := arrive_frame x (play x p₀ es) t a
  have hplay : play x p₀ (es ++ [.arrive t a]) = Pipeline.arrive x (play x p₀ es) t a := play_snoc p₀ es _
  rw [← hplay] at hsource hagenda
  obtain ⟨hheld, hreleased, hkept⟩ := (play x p₀ es).source.conclude_kept t a
  have harrive : UnderWay x p₀ (es ++ [.arrive t a]) dropped hand (some t) := by
    refine h.event trivial (fun u hu => hu) (by simp) ?_ (fun u hu => .inl (hheld u (hsource ▸ hu)))
      (fun u hu => hreleased u (hsource ▸ hu)) fun u hu hne => ?_
    · rw [underway, underway, hagenda]
    · rw [hsource]
      exact hkept u hu fun heq => hne (congrArg some heq)
  have hundone : ¬ Done (es ++ [.arrive t a]) t := not_done_snoc hr.undone (by simp)
  refine ⟨if ((play x p₀ es).source.conclude t a).2 then adsOfPage ((play x p₀ es).source.page? t.tab) else Table.empty,
    ?_, ?_⟩
  · rw [conclude_eq, play_append]
    rfl
  · have hfinish := harrive.finishes hundone ((hr.ends h.fetches.released).arrive a)
    rwa [List.append_assoc] at hfinish

end UnderWay

end AdConfirm.Pipeline
