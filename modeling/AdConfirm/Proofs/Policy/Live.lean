import AdConfirm.Proofs.History
import AdConfirm.Proofs.Policy.Timer

/-!
The overrides in force.

At a quiet moment the policy of a center is its base with exactly the live overrides over it. The base is the one that was
loaded last. An override is live from when it was applied until its path is cleared, another one is applied to its path, or
its time to live is over.

- `Standing`, `Live`, `IsBase`: what the history of a center says of its overrides and its base.
- `standing_of_held`, `held_of_live`: what is held stands, and what is live is held, at every moment.
- `isBase_iff`: the base of a center is the one its history says.
- `live_overrides_in_force`: what the policy is, whatever was done in whatever order.
-/

namespace AdConfirm.Policy

namespace Machine

/-- the act leaves nothing of an earlier override of the path -/
def Replaces (m : Machine) (a : Act) (path : String) : Prop :=
  a = .command (.clear path) ∨ ∃ s, a = .command (.apply s) ∧ s.Applies m.agenda.now ∧ s.path = path

variable {m m' : Machine} {a : Act}

theorem Effect.now_le (e : m.Effect a m') : m.agenda.now ≤ m'.agenda.now := by
  cases e with
  | @applied s _ _ hs ho hc ha =>
    rw [ha]
    cases s.timer? <;> exact le_rfl
  | cleared hc ha => exact ha ▸ le_rfl
  | reloaded hb hc ha => exact ha ▸ le_rfl
  | slept hr hc ha => exact ha ▸ le_rfl
  | expired hr hc ha => exact ha ▸ le_rfl
  | outrun hr ho hc ha => exact ha ▸ le_rfl
  | passed hr ht hc ha => exact ha ▸ ht
  | idle _ _ _ hc ha => exact ha ▸ le_rfl

/-- An override that is applied is held. -/
theorem Effect.held_of_applied {s : OverrideSpec} (e : m.Effect (.command (.apply s)) m') (hs : s.Applies m.agenda.now) :
    m'.center.overrides.find? s.path = s.make? m.agenda.now := by
  cases e with
  | applied _ ho hc _ =>
    rw [ho, hc.held, Table.find?_insert, if_pos rfl]
    exact ⟨rfl, OverrideSpec.isLive_of_make? ho⟩
  | idle h _ _ _ _ => exact absurd hs (h s rfl)

/-- What is held after an act was held before and is not replaced, or was applied. -/
theorem Effect.held_before (e : m.Effect a m') {path : String} {o : Override}
    (ho : m'.center.overrides.find? path = some o) :
    m.center.overrides.find? path = some o ∧ ¬ m.Replaces a path ∨
      ∃ s, a = .command (.apply s) ∧ s.Applies m.agenda.now ∧ s.path = path ∧ s.make? m.agenda.now = some o := by
  cases e with
  | @applied s _ _ hs hstored hc ha =>
    have hins := ((hc.held path o).1 ho).1
    rw [Table.find?_insert] at hins
    split at hins
    · next hpath => exact .inr ⟨s, rfl, hs, hpath, hstored.trans hins⟩
    · next hpath =>
      refine .inl ⟨hins, ?_⟩
      rintro (h | ⟨s', h, -, hpath'⟩)
      · cases h
      · cases h
        exact hpath hpath'
  | @cleared p _ hc ha =>
    obtain ⟨hne, hold⟩ := Center.find?_erase_eq_some_iff.1 ((hc.held path o).1 ho).1
    refine .inl ⟨hold, ?_⟩
    rintro (h | ⟨s, h, -⟩)
    · cases h
      exact hne rfl
    · cases h
  | reloaded hb hc ha => exact .inl ⟨((hc.held path o).1 ho).1, by simp [Replaces]⟩
  | slept hr hc ha => exact .inl ⟨hc ▸ ho, by simp [Replaces]⟩
  | expired hr hc ha => exact .inl ⟨((hc.held path o).1 ho).1, by simp [Replaces]⟩
  | outrun hr hlive hc ha => exact .inl ⟨hc ▸ ho, by simp [Replaces]⟩
  | passed hr ht hc ha => exact .inl ⟨hc ▸ ho, by simp [Replaces]⟩
  | idle hs hp hb hc ha =>
    rw [hc] at ho
    refine .inl ⟨ho, ?_⟩
    rintro (rfl | ⟨s, rfl, happlies, -⟩)
    · rw [hp path rfl] at ho
      cases ho
    · exact hs s rfl happlies

/-- What is live is still held after an act that does not replace it. -/
theorem Effect.held_after (e : m.Effect a m') {path : String} {o : Override}
    (ho : m.center.overrides.find? path = some o) (hlive : o.isLive m.agenda.now = true) (hr : ¬ m.Replaces a path) :
    m'.center.overrides.find? path = some o := by
  cases e with
  | @applied s _ _ hs _ hc ha =>
    have hne : s.path ≠ path := fun hpath => hr (.inr ⟨s, rfl, hs, hpath⟩)
    rw [hc.held, Table.find?_insert, if_neg hne]
    exact ⟨ho, hlive⟩
  | @cleared p _ hc ha =>
    have hne : p ≠ path := by
      rintro rfl
      exact hr (.inl rfl)
    rw [hc.held, Center.find?_erase_eq_some_iff]
    exact ⟨⟨hne, ho⟩, hlive⟩
  | reloaded hb hc ha => exact (hc.held path o).2 ⟨ho, hlive⟩
  | slept _ hc ha => exact hc ▸ ho
  | expired _ hc ha => exact (hc.held path o).2 ⟨ho, hlive⟩
  | outrun _ _ hc ha => exact hc ▸ ho
  | passed _ ht hc ha => exact hc ▸ ho
  | idle _ _ _ hc ha => exact hc ▸ ho

theorem Effect.source_eq (e : m.Effect a m') : m'.center.source = m.center.source := by
  cases e with
  | applied _ _ hc _ => exact hc.source
  | cleared hc _ => exact hc.source
  | reloaded _ hc _ => exact hc.source
  | slept _ hc _ => rw [hc]
  | expired _ hc _ => exact hc.source
  | outrun _ _ hc _ => rw [hc]
  | passed _ _ hc _ => rw [hc]
  | idle _ _ _ hc _ => rw [hc]

theorem Loads.unique {b b' : Snapshot} (h : m.Loads b) (h' : m.Loads b') : b = b' := by
  obtain ⟨x, hx, hb⟩ := h
  obtain ⟨x', hx', hb'⟩ := h'
  obtain rfl := Option.some.inj (hx.symm.trans hx')
  exact Except.ok.inj (hb.symm.trans hb')

/-- A reload takes over the base that it loads. -/
theorem Effect.base_of_loads (e : m.Effect (.command .reload) m') {b : Snapshot} (hb : m.Loads b) : m'.center.base = b := by
  cases e with
  | reloaded hb' hc _ => exact hc.base.trans (hb'.unique hb)
  | idle _ _ h _ _ => exact absurd hb (h rfl b)

/-- Nothing else changes the base. -/
theorem Effect.base_eq (e : m.Effect a m') (h : a = .command .reload → ∀ b, ¬ m.Loads b) :
    m'.center.base = m.center.base := by
  cases e with
  | applied _ _ hc _ => exact hc.base
  | cleared hc _ => exact hc.base
  | reloaded hb _ _ => exact absurd hb (h rfl _)
  | slept _ hc _ => rw [hc]
  | expired _ hc _ => exact hc.base
  | outrun _ _ hc _ => rw [hc]
  | passed _ _ hc _ => rw [hc]
  | idle _ _ _ hc _ => rw [hc]

end Machine

/-! ## What the history says -/

section History

variable (base : Snapshot) (source : Option Options) (w : Surroundings)

/-- a center on a base, fixed or loaded from sources, after some acts -/
def after (acts : List Act) : Machine := (Machine.ofCenter (.build base source) w).play acts

/-- the act applies the override, successfully and at this time -/
def Took (before : List Act) (a : Act) (s : OverrideSpec) (time : Nat) : Prop :=
  a = .command (.apply s) ∧ ((after base source w before).apply s).2 = .ok () ∧
    (after base source w before).agenda.now = time

/-- the act clears the path, or applies another override to it successfully -/
def Ends (path : String) (before : List Act) (a : Act) : Prop :=
  a = .command (.clear path) ∨ ∃ s time, Took base source w before a s time ∧ s.path = path

/-- the override was applied at this time; since then its path was not cleared, and no other override applied to it -/
def Standing (acts : List Act) (s : OverrideSpec) (time : Nat) : Prop :=
  Since (fun before a => Took base source w before a s time) (Ends base source w s.path) acts

/-- the override stands, and its time to live, if it has one, is not over -/
def Live (acts : List Act) (s : OverrideSpec) : Prop :=
  ∃ time, Standing base source w acts s time ∧
    (s.ttl = 0 ∨ (after base source w acts).agenda.now < time + 1000 * s.ttl.toNat)

/-- the act is a reload that succeeds and loads this base -/
def Loaded (before : List Act) (a : Act) (b : Snapshot) : Prop :=
  a = .command .reload ∧ (after base source w before).reload.2 = .ok () ∧
    ∃ x, source = some x ∧ load (after base source w before).surroundings x = .ok b

/-- the base that was loaded last, or the first one if none was -/
def IsBase (acts : List Act) (b : Snapshot) : Prop :=
  Since (fun before a => Loaded base source w before a b) (fun before a => ∃ b', Loaded base source w before a b') acts ∨
    b = base ∧ ¬ Ever (fun before a => ∃ b', Loaded base source w before a b') acts

theorem after_snoc (acts : List Act) (a : Act) : after base source w (acts ++ [a]) = (after base source w acts).act a :=
  Machine.play_snoc _ acts a

theorem after_inv (acts : List Act) : (after base source w acts).Inv :=
  Machine.play_inv (Machine.inv_start base source w) acts

theorem after_effect (acts : List Act) (a : Act) :
    (after base source w acts).Effect a (after base source w (acts ++ [a])) := by
  rw [after_snoc]
  exact Machine.act_effect (after_inv base source w acts).sound a

theorem after_source (acts : List Act) : (after base source w acts).center.source = source := by
  induction acts using List.reverseRecOn with
  | nil => rfl
  | append_singleton acts a ih => exact (after_effect base source w acts a).source_eq.trans ih

theorem took_iff {before : List Act} {a : Act} {s : OverrideSpec} {time : Nat} :
    Took base source w before a s time ↔
      a = .command (.apply s) ∧ s.Applies time ∧ (after base source w before).agenda.now = time := by
  rw [Took, Machine.apply_eq_ok_iff (after_inv base source w before).sound]
  refine and_congr_right fun _ => and_congr_left ?_
  rintro rfl
  rfl

theorem ends_iff {path : String} {before : List Act} {a : Act} :
    Ends base source w path before a ↔ (after base source w before).Replaces a path := by
  simp only [Ends, Machine.Replaces, took_iff]
  refine or_congr_right ⟨?_, ?_⟩
  · rintro ⟨s, time, ⟨ha, hs, rfl⟩, hpath⟩
    exact ⟨s, ha, hs, hpath⟩
  · rintro ⟨s, ha, hs, hpath⟩
    exact ⟨s, _, ⟨ha, hs, rfl⟩, hpath⟩

theorem standing_snoc {acts : List Act} {a : Act} {s : OverrideSpec} {time : Nat} :
    Standing base source w (acts ++ [a]) s time ↔
      (a = .command (.apply s) ∧ s.Applies time ∧ (after base source w acts).agenda.now = time) ∨
        (Standing base source w acts s time ∧ ¬ (after base source w acts).Replaces a s.path) := by
  rw [Standing, since_snoc, took_iff, ends_iff]
  rfl

/-- What is held stands. -/
theorem standing_of_held {acts : List Act} {path : String} {o : Override}
    (ho : (after base source w acts).center.overrides.find? path = some o) :
    ∃ s time, Standing base source w acts s time ∧ s.path = path ∧ s.make? time = some o := by
  induction acts using List.reverseRecOn with
  | nil => simp [after, Machine.play, Machine.ofCenter, Center.build] at ho
  | append_singleton acts a ih =>
    rcases (after_effect base source w acts a).held_before ho with ⟨hold, hr⟩ | ⟨s, ha, hs, hpath, hentry⟩
    · obtain ⟨s, time, hstanding, rfl, hentry⟩ := ih hold
      exact ⟨s, time, (standing_snoc base source w).2 (.inr ⟨hstanding, hr⟩), rfl, hentry⟩
    · exact ⟨s, _, (standing_snoc base source w).2 (.inl ⟨ha, hs, rfl⟩), hpath, hentry⟩

/-- What stands was applied when it could be. -/
theorem applies_of_standing {acts : List Act} {s : OverrideSpec} {time : Nat} (h : Standing base source w acts s time) :
    s.Applies time := by
  obtain ⟨before, a, later, -, htook, -⟩ := h
  exact ((took_iff base source w).1 htook).2.1

/-- What stands and is live is held. -/
theorem held_of_live {acts : List Act} {s : OverrideSpec} {time : Nat} (hs : Standing base source w acts s time)
    (hlive : s.ttl = 0 ∨ (after base source w acts).agenda.now < time + 1000 * s.ttl.toNat) :
    (after base source w acts).center.overrides.find? s.path = s.make? time := by
  induction acts using List.reverseRecOn with
  | nil => exact absurd hs not_since_nil
  | append_singleton acts a ih =>
    have e := after_effect base source w acts a
    rcases (standing_snoc base source w).1 hs with ⟨rfl, happlies, rfl⟩ | ⟨hstanding, hr⟩
    · exact e.held_of_applied happlies
    · -- time only goes on, so what is live now was live before
      have hnow := e.now_le
      have hbefore : s.ttl = 0 ∨ (after base source w acts).agenda.now < time + 1000 * s.ttl.toNat :=
        hlive.imp_right fun hlt => by omega
      obtain ⟨o, ho⟩ := OverrideSpec.exists_make? (applies_of_standing base source w hstanding).2
      rw [ho]
      exact e.held_after ((ih hstanding hbefore).trans ho) ((OverrideSpec.isLive_iff_of_make? ho).2 hbefore) hr

theorem loaded_iff {before : List Act} {a : Act} {b : Snapshot} :
    Loaded base source w before a b ↔ a = .command .reload ∧ (after base source w before).Loads b := by
  rw [Loaded, Machine.reload_eq_ok_iff (after_inv base source w before).sound, Machine.Loads, after_source]
  refine and_congr_right fun _ => ⟨And.right, fun h => ⟨?_, h⟩⟩
  obtain ⟨x, hx, hb⟩ := h
  exact ⟨b, x, (after_source base source w before).trans hx, hb⟩

theorem isBase_snoc {acts : List Act} {a : Act} {b : Snapshot} :
    IsBase base source w (acts ++ [a]) b ↔
      Loaded base source w acts a b ∨ (IsBase base source w acts b ∧ ¬ ∃ b', Loaded base source w acts a b') := by
  rw [IsBase, IsBase, since_snoc, ever_snoc]
  tauto

/-- The base of a center is the one that its history says. -/
theorem isBase_iff {acts : List Act} {b : Snapshot} :
    IsBase base source w acts b ↔ b = (after base source w acts).center.base := by
  induction acts using List.reverseRecOn generalizing b with
  | nil =>
    have hnil : (after base source w []).center.base = base := rfl
    rw [IsBase, hnil]
    exact ⟨fun h => h.elim (fun h => absurd h not_since_nil) And.left, fun h => .inr ⟨h, not_ever_nil⟩⟩
  | append_singleton acts a ih =>
    have e := after_effect base source w acts a
    rw [isBase_snoc]
    by_cases hload : ∃ b', Loaded base source w acts a b'
    · obtain ⟨b', hb'⟩ := hload
      obtain ⟨rfl, hloads⟩ := (loaded_iff base source w).1 hb'
      rw [e.base_of_loads hloads]
      constructor
      · rintro (hb | ⟨-, hnone⟩)
        · exact ((loaded_iff base source w).1 hb).2.unique hloads
        · exact absurd ⟨b', hb'⟩ hnone
      · rintro rfl
        exact .inl hb'
    · have hsame : (after base source w (acts ++ [a])).center.base = (after base source w acts).center.base :=
        e.base_eq fun ha b hb => hload ⟨b, (loaded_iff base source w).2 ⟨ha, hb⟩⟩
      rw [hsame, ← ih]
      exact ⟨fun h => h.elim (fun hb => absurd ⟨b, hb⟩ hload) And.left, fun h => .inr ⟨h, hload⟩⟩

/-- **The policy is the base with exactly the live overrides over it.** Every run is a play, and whenever it has settled or
let time pass no task is ready. After every play at whose end no task is ready, whatever was applied, cleared and reloaded in
whatever order, and however many timers are still on their way: the base is the one loaded last; every live override is in
force on its path, as an override if it differs from the base, and all else is as the base has it; and who watches sees this
policy. -/
theorem live_overrides_in_force :
    (∀ ops, ∃ acts, (Machine.ofCenter (.build base source) w).run ops = after base source w acts ∧
      acts.filterMap Act.command? = ops.filterMap Op.command?) ∧
    (∀ ops ms, ((Machine.ofCenter (.build base source) w).run (ops ++ [.settle])).agenda.isQuiet = true ∧
      ((Machine.ofCenter (.build base source) w).run (ops ++ [.advance ms])).agenda.isQuiet = true) ∧
    ∀ acts, let m := after base source w acts
      m.agenda.isQuiet = true →
        (∀ b, IsBase base source w acts b ↔ b = m.center.base) ∧
        Overlaid m.center.base m.center.snapshot
          (fun path x => ∃ s, Live base source w acts s ∧ s.path = path ∧ s.value = x) ∧
        m.center.watched = m.center.snapshot := by
  refine ⟨Machine.run_eq_play _, Machine.run_quiet _, ?_⟩
  intro acts m hquiet
  have hinv : m.Inv := after_inv base source w acts
  refine ⟨fun b => isBase_iff base source w, hinv.sound.overlaid.congr fun path x => ?_, hinv.sound.watched⟩
  constructor
  · rintro ⟨o, ho, rfl⟩
    have hlive := hinv.live_of_quiet (List.isEmpty_iff.1 hquiet) ho
    obtain ⟨s, time, hstanding, hpath, hentry⟩ := standing_of_held base source w ho
    exact ⟨s, ⟨time, hstanding, (OverrideSpec.isLive_iff_of_make? hentry).1 hlive⟩, hpath,
      (OverrideSpec.value_of_make? hentry).symm⟩
  · rintro ⟨s, ⟨time, hstanding, hlive⟩, rfl, rfl⟩
    obtain ⟨o, ho⟩ := OverrideSpec.exists_make? (applies_of_standing base source w hstanding).2
    exact ⟨o, (held_of_live base source w hstanding hlive).trans ho, OverrideSpec.value_of_make? ho⟩

end History

/-- two overrides of one path, the second to live longer; the timer of the first runs down and looks at the path -/
def racingTimers : List Act :=
  [.command (.apply ⟨"ads.enabled", .bool false, "ops", "first", 1⟩),
    .command (.apply ⟨"ads.enabled", .bool false, "ops", "second", 2⟩),
    .beat .turn, .beat .turn, .beat (.moveTo 1000), .beat .turn]

theorem live_overrides_in_force_racing :
    let m := after .start none ⟨fun _ => .missing, []⟩ racingTimers
    m.agenda.isQuiet = true ∧ m.agenda.now = 1000 ∧ m.agenda.asleep.length = 1 ∧ m.center.snapshot.adsEnabled = false ∧
      Overlaid m.center.base m.center.snapshot
        (fun path x => ∃ s, Live .start none ⟨fun _ => .missing, []⟩ racingTimers s ∧ s.path = path ∧ s.value = x) :=
  ⟨by decide +kernel, by decide +kernel, by decide +kernel, by decide +kernel,
    ((live_overrides_in_force .start none ⟨fun _ => .missing, []⟩).2.2 racingTimers (by decide +kernel)).2.1⟩

end AdConfirm.Policy
