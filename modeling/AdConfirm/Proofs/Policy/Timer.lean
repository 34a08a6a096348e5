import AdConfirm.Proofs.Policy.Play

/-!
Every override that is to expire has a timer.

Timers outlive the overrides they were set for, so a timer may meet another override of its path, or none. What counts is the
converse: to every override that is held and has a deadline there is a timer that comes at that deadline.

- `Timed`: where the timer of an override may be, on its way from being set to running down.
- `Effect.inv`: every act keeps a timer for every deadline.
- `Inv.live_of_quiet`: so nothing that is held has expired when no task is ready.
-/

namespace AdConfirm.Policy

/-- some timer looks at the path at the deadline: it is about to be set, or waits, or has run down and is about to look -/
def Timed (a : Agenda Expiry) (path : String) (deadline : Nat) : Prop :=
  (∃ ttl, .set path ttl ∈ a.ready ∧ a.now + 1000 * ttl = deadline) ∨ ⟨some deadline, .due path⟩ ∈ a.asleep ∨
    .due path ∈ a.ready ∧ deadline ≤ a.now

theorem Timed.spawn {a : Agenda Expiry} {path : String} {d : Nat} (h : Timed a path d) (t : Expiry) :
    Timed (a.spawn t) path d := by
  rcases h with ⟨ttl, hmem, hd⟩ | hmem | ⟨hmem, hd⟩
  · exact .inl ⟨ttl, List.mem_append_left _ hmem, hd⟩
  · exact .inr (.inl hmem)
  · exact .inr (.inr ⟨List.mem_append_left _ hmem, hd⟩)

/-- A timer that is set waits for the deadline it was set for. -/
theorem Timed.slept {a : Agenda Expiry} {path p : String} {d ttl : Nat} {rest : List Expiry} (h : Timed a path d)
    (hr : a.ready = .set p ttl :: rest) :
    Timed ({ a with ready := rest }.sleepUntil (a.now + 1000 * ttl) (.due p)) path d := by
  unfold Timed at h
  rw [hr] at h
  rcases h with ⟨ttl', hmem, hd⟩ | hmem | ⟨hmem, hd⟩
  · rcases List.mem_cons.1 hmem with heq | hmem
    · cases heq
      exact .inr (.inl (List.mem_append_right _ (by simp [hd])))
    · exact .inl ⟨ttl', hmem, hd⟩
  · exact .inr (.inl (List.mem_append_left _ hmem))
  · rcases List.mem_cons.1 hmem with heq | hmem
    · cases heq
    · exact .inr (.inr ⟨hmem, hd⟩)

/-- After a timer has looked at its path, only a deadline on that path that has come may be without a timer. -/
theorem Timed.looked {a : Agenda Expiry} {path p : String} {d : Nat} {rest : List Expiry} (h : Timed a path d)
    (hr : a.ready = .due p :: rest) : Timed { a with ready := rest } path d ∨ path = p ∧ d ≤ a.now := by
  unfold Timed at h
  rw [hr] at h
  rcases h with ⟨ttl, hmem, hd⟩ | hmem | ⟨hmem, hd⟩
  · rcases List.mem_cons.1 hmem with heq | hmem
    · cases heq
    · exact .inl (.inl ⟨ttl, hmem, hd⟩)
  · exact .inl (.inr (.inl hmem))
  · rcases List.mem_cons.1 hmem with heq | hmem
    · cases heq
      exact .inr ⟨rfl, hd⟩
    · exact .inl (.inr (.inr ⟨hmem, hd⟩))

/-- While no task is ready the clock may be set: a timer that is due then has run down. -/
theorem Timed.passed {a : Agenda Expiry} {path : String} {d : Nat} (h : Timed a path d) (hr : a.ready = []) (time : Nat) :
    Timed (a.moveTo time) path d := by
  unfold Timed at h
  rw [hr] at h
  rcases h with ⟨ttl, hmem, -⟩ | hmem | ⟨hmem, -⟩
  · cases hmem
  · by_cases hd : d ≤ time
    · refine .inr (.inr ⟨List.mem_append_right _ (List.mem_map.2 ⟨⟨some d, .due path⟩, ?_, rfl⟩), hd⟩)
      exact List.mem_filter.2 ⟨hmem, by simpa [Agenda.isDue] using hd⟩
    · exact .inr (.inl (List.mem_filter.2 ⟨hmem, by simpa [Agenda.isDue] using hd⟩))
  · cases hmem

namespace Machine

/-- the timers of a center: every deadline has one, none that waits is due, and none is set for no time at all -/
structure Inv (m : Machine) : Prop where
  sound : m.center.Sound
  timed : ∀ path o d, m.center.overrides.find? path = some o → o.deadline = some d → Timed m.agenda path d
  asleep : ∀ z ∈ m.agenda.asleep, ∃ path d, z = ⟨some d, .due path⟩ ∧ m.agenda.now < d
  positive : ∀ path ttl, .set path ttl ∈ m.agenda.ready → ttl ≠ 0

theorem inv_start (base : Snapshot) (source : Option Options) (w : Surroundings) :
    (ofCenter (.build base source) w).Inv :=
  ⟨Center.build_sound base source, fun _ _ _ ho => by simp [ofCenter, Center.build] at ho, by simp [ofCenter, Agenda.empty],
    by simp [ofCenter, Agenda.empty]⟩

/-- what is held at a quiet moment has not expired -/
theorem Inv.live_of_quiet {m : Machine} (h : m.Inv) (hq : m.agenda.ready = []) {path : String} {o : Override}
    (ho : m.center.overrides.find? path = some o) : o.isLive m.agenda.now = true := by
  cases hd : o.deadline with
  | none => simp [Override.isLive, hd]
  | some d =>
    have htimed := h.timed path o d ho hd
    unfold Timed at htimed
    rw [hq] at htimed
    rcases htimed with ⟨ttl, hmem, -⟩ | hmem | ⟨hmem, -⟩
    · cases hmem
    · obtain ⟨p, d', heq, hlt⟩ := h.asleep _ hmem
      cases heq
      simpa [Override.isLive, hd] using hlt
    · cases hmem

/-- Dropping overrides leaves every deadline its timer. -/
theorem Inv.of_dropped {m m' : Machine} (h : m.Inv) (hs : m'.center.Sound)
    (ho : ∀ path o, m'.center.overrides.find? path = some o → m.center.overrides.find? path = some o)
    (ha : m'.agenda = m.agenda) : m'.Inv :=
  ⟨hs, fun path o d ho' hd => ha ▸ h.timed path o d (ho path o ho') hd, ha ▸ h.asleep, ha ▸ h.positive⟩

/-- no timer in the rest of the line is set for no time at all -/
theorem Inv.positive_rest {m : Machine} (h : m.Inv) {t : Expiry} {rest : List Expiry} (hr : m.agenda.ready = t :: rest)
    (path : String) (ttl : Nat) (hmem : .set path ttl ∈ rest) : ttl ≠ 0 :=
  h.positive path ttl (hr ▸ List.mem_cons_of_mem t hmem)

/-- What is held after an override was applied was held before, or is that override and has the timer it was given. -/
theorem Inv.timed_applied {m : Machine} (h : m.Inv) {s : OverrideSpec} {stored : Override}
    (hs : s.make? m.agenda.now = some stored) {path : String} {o : Override} {d : Nat}
    (ho : (m.center.overrides.insert s.path stored).find? path = some o) (hd : o.deadline = some d) :
    Timed (s.timer?.elim m.agenda m.agenda.spawn) path d := by
  rw [Table.find?_insert] at ho
  by_cases hpath : s.path = path
  · rw [if_pos hpath] at ho
    obtain rfl := Option.some.inj ho
    rw [(OverrideSpec.make?_eq_some_iff.1 hs).2, Option.map_eq_some_iff] at hd
    obtain ⟨ttl, httl, hsum⟩ := hd
    refine .inl ⟨ttl, ?_, ?_⟩ <;> simp [OverrideSpec.timer?, httl, Agenda.spawn, hpath, hsum]
  · rw [if_neg hpath] at ho
    have htimed := h.timed path o d ho hd
    cases s.timer? with
    | none => exact htimed
    | some t => exact htimed.spawn t

/-- No timer is set for no time at all. -/
theorem positive_of_timer? {s : OverrideSpec} {path : String} {ttl : Nat} (h : s.timer? = some (.set path ttl)) : ttl ≠ 0 := by
  obtain ⟨n, hn, heq⟩ := Option.map_eq_some_iff.1 h
  cases heq
  unfold OverrideSpec.seconds? at hn
  split at hn
  · cases hn
  · next httl =>
    obtain rfl := Option.some.inj hn
    exact fun hzero => httl (UInt64.toNat_inj.1 hzero)

/-- Every act keeps a timer for every deadline. -/
theorem Effect.inv {m m' : Machine} {a : Act} (e : m.Effect a m') (h : m.Inv) : m'.Inv := by
  cases e with
  | @applied s stored _ hs hstored hc ha =>
    refine ⟨hc.sound, fun path o d ho hd => ?_, ?_, ?_⟩
    · rw [ha]
      exact h.timed_applied hstored ((hc.held path o).1 ho).1 hd
    · rw [ha]
      cases s.timer? <;> exact h.asleep
    · rw [ha]
      intro path ttl hmem
      cases htimer : s.timer? with
      | none =>
        rw [htimer] at hmem
        exact h.positive path ttl hmem
      | some t =>
        rw [htimer] at hmem
        rcases List.mem_append.1 hmem with hmem | hmem
        · exact h.positive path ttl hmem
        · obtain rfl := List.mem_singleton.1 hmem
          exact positive_of_timer? htimer
  | cleared hc ha =>
    exact h.of_dropped hc.sound (fun q o ho => (Center.find?_erase_eq_some_iff.1 ((hc.held q o).1 ho).1).2) ha
  | reloaded hb hc ha => exact h.of_dropped hc.sound (fun q o ho => ((hc.held q o).1 ho).1) ha
  | @slept path ttl rest _ hr hc ha =>
    refine ⟨hc ▸ h.sound, fun q o d ho hd => ?_, ?_, ?_⟩
    · rw [ha]
      rw [hc] at ho
      exact (h.timed q o d ho hd).slept hr
    · rw [ha]
      intro z hz
      rcases List.mem_append.1 hz with hz | hz
      · exact h.asleep z hz
      · have httl := h.positive path ttl (by simp [hr])
        exact ⟨path, m.agenda.now + 1000 * ttl, List.mem_singleton.1 hz, by simp only [Agenda.sleepUntil]; omega⟩
    · rw [ha]
      exact h.positive_rest hr
  | @expired path rest _ hr hc ha =>
    refine ⟨hc.sound, fun q o d ho hd => ?_, ha ▸ h.asleep, ?_⟩
    · obtain ⟨ho, hlive⟩ := (hc.held q o).1 ho
      rw [ha]
      rcases (h.timed q o d ho hd).looked hr with htimed | ⟨-, hle⟩
      · exact htimed
      · simp only [Override.isLive, hd, decide_eq_true_eq] at hlive
        omega
    · rw [ha]
      exact h.positive_rest hr
  | @outrun path rest _ hr ho hc ha =>
    refine ⟨hc ▸ h.sound, fun q o d ho' hd => ?_, ha ▸ h.asleep, ?_⟩
    · rw [hc] at ho'
      rw [ha]
      rcases (h.timed q o d ho' hd).looked hr with htimed | ⟨rfl, hle⟩
      · exact htimed
      · have hlive := ho o ho'
        simp only [Override.isLive, hd, decide_eq_true_eq] at hlive
        omega
    · rw [ha]
      exact h.positive_rest hr
  | @passed time _ hr ht hc ha =>
    refine ⟨hc ▸ h.sound, fun q o d ho hd => ?_, ?_, ?_⟩
    · rw [hc] at ho
      rw [ha]
      exact (h.timed q o d ho hd).passed hr time
    · rw [ha]
      intro z hz
      obtain ⟨hz, hdue⟩ := List.mem_filter.1 hz
      obtain ⟨path, d, rfl, -⟩ := h.asleep z hz
      have hlt : time < d := by simpa [Agenda.isDue] using hdue
      exact ⟨path, d, rfl, hlt⟩
    · rw [ha]
      intro q ttl hmem
      -- whoever is woken has waited, and only a timer that was set waits
      rcases List.mem_append.1 hmem with hmem | hmem
      · exact h.positive q ttl hmem
      · obtain ⟨z, hz, heq⟩ := List.mem_map.1 hmem
        obtain ⟨path, d, rfl, -⟩ := h.asleep z (List.mem_filter.1 hz).1
        cases heq
  | idle _ _ _ hc ha => exact h.of_dropped (hc ▸ h.sound) (fun q o ho => hc ▸ ho) ha

theorem play_inv {m : Machine} (h : m.Inv) (acts : List Act) : (m.play acts).Inv := by
  induction acts using List.reverseRecOn with
  | nil => exact h
  | append_singleton acts a ih =>
    rw [play_snoc]
    exact (act_effect ih.sound a).inv ih

end Machine

end AdConfirm.Policy
