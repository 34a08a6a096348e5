import Mathlib.Data.List.Forall2
import Mathlib.Tactic.Cases

/-!
What comes of steps that may fail, one after the other.

- `bind_eq_ok`: two steps succeed if the first does and the second does on what the first gives.
- `foldlM_snoc_eq_ok`: so do many, the last one on what all before it give.
- `foldlM_eq_error_iff`: what many fail with is what the first of them that fails does.
- `foldlM_isOk_iff_of`, `foldlM_eq_error_iff_of`: where a step fails whatever was before it, many fail with the first of them.
- `exists_of_mem_mapM`, `mapM_isOk_iff`: what reading a list gives comes from its items, and every item has to be read.
- `mapM_eq_error_iff`: reading a list fails as the first of its items does that cannot be read.
- `toOption_mapM`, `mapM_eq_some_iff`: a list is read item by item.
- `mapM_map_eq_some`: a list made of items that can be read can be read.
-/

namespace AdConfirm

theorem bind_eq_ok {ε α β : Type} {x : Except ε α} {f : α → Except ε β} {b : β} :
    x >>= f = .ok b ↔ ∃ a, x = .ok a ∧ f a = .ok b := by
  cases x with
  | error e => exact ⟨fun h => (nomatch h), fun ⟨_, h, _⟩ => (nomatch h)⟩
  | ok a => exact ⟨fun h => ⟨a, rfl, h⟩, fun ⟨_, ha, h⟩ => by cases ha; exact h⟩

theorem foldlM_snoc_eq_ok {ε α β : Type} {f : β → α → Except ε β} {b c : β} {as : List α} {a : α} :
    (as ++ [a]).foldlM f b = .ok c ↔ ∃ b', as.foldlM f b = .ok b' ∧ f b' a = .ok c := by
  rw [List.foldlM_append, bind_eq_ok]
  simp only [List.foldlM_cons, List.foldlM_nil, bind_pure]

theorem bind_eq_error {ε α β : Type} {x : Except ε α} {f : α → Except ε β} {e : ε} :
    x >>= f = .error e ↔ x = .error e ∨ ∃ a, x = .ok a ∧ f a = .error e := by
  cases x with
  | error e' => simp [bind, Except.bind]
  | ok a => simp [bind, Except.bind]

/-- Steps fail as the first of them does that fails, on what those before it give. -/
theorem foldlM_eq_error_iff {ε α β : Type} {f : β → α → Except ε β} {b : β} {as : List α} {e : ε} :
    as.foldlM f b = .error e ↔
      ∃ before a after b', as = before ++ a :: after ∧ before.foldlM f b = .ok b' ∧ f b' a = .error e := by
  constructor
  · intro h
    induction as generalizing b with
    | nil => cases h
    | cons a as ih =>
      rw [List.foldlM_cons] at h
      rcases bind_eq_error.1 h with ha | ⟨b₁, hb₁, h⟩
      · exact ⟨[], a, as, b, rfl, rfl, ha⟩
      · obtain ⟨before, a', after, b', rfl, hbefore, ha'⟩ := ih h
        refine ⟨a :: before, a', after, b', rfl, ?_, ha'⟩
        rw [List.foldlM_cons]
        exact bind_eq_ok.2 ⟨b₁, hb₁, hbefore⟩
  · rintro ⟨before, a, after, b', rfl, hbefore, ha⟩
    rw [List.foldlM_append, bind_eq_error]
    refine .inr ⟨b', hbefore, ?_⟩
    rw [List.foldlM_cons, bind_eq_error]
    exact .inl ha

/-- Steps that are possible whatever was before them succeed if every one of them is possible. -/
theorem foldlM_isOk_iff_of {ε α β : Type} {f : β → α → Except ε β} {good : α → Prop}
    (hf : ∀ b a, (∃ c, f b a = .ok c) ↔ good a) {b : β} {as : List α} :
    (∃ c, as.foldlM f b = .ok c) ↔ ∀ a ∈ as, good a := by
  induction as generalizing b with
  | nil => simp [pure, Except.pure]
  | cons a as ih =>
    rw [List.foldlM_cons, List.forall_mem_cons, ← hf b a]
    constructor
    · rintro ⟨c, h⟩
      obtain ⟨b', hb', hc⟩ := bind_eq_ok.1 h
      exact ⟨⟨b', hb'⟩, ih.1 ⟨c, hc⟩⟩
    · rintro ⟨⟨b', hb'⟩, has⟩
      obtain ⟨c, hc⟩ := ih.2 has
      exact ⟨c, bind_eq_ok.2 ⟨b', hb', hc⟩⟩

/-- Steps that fail whatever was before them fail as the first one does that is not possible. -/
theorem foldlM_eq_error_iff_of {ε α β : Type} {f : β → α → Except ε β} {good : α → Prop} {bad : α → ε → Prop}
    (hf : ∀ b a, (∃ c, f b a = .ok c) ↔ good a) (he : ∀ b a e, f b a = .error e ↔ bad a e) {b : β} {as : List α} {e : ε} :
    as.foldlM f b = .error e ↔ ∃ before a after, as = before ++ a :: after ∧ (∀ a' ∈ before, good a') ∧ bad a e := by
  rw [foldlM_eq_error_iff]
  constructor
  · rintro ⟨before, a, after, b', rfl, hbefore, ha⟩
    exact ⟨before, a, after, rfl, (foldlM_isOk_iff_of hf).1 ⟨b', hbefore⟩, (he b' a e).1 ha⟩
  · rintro ⟨before, a, after, rfl, hbefore, ha⟩
    obtain ⟨b', hb'⟩ := (foldlM_isOk_iff_of hf (b := b)).2 hbefore
    exact ⟨before, a, after, b', rfl, hb', (he b' a e).2 ha⟩

/-- What reading a list gives comes from its items. -/
theorem exists_of_mem_mapM {α β : Type} {f : α → Option β} {as : List α} {bs : List β} (h : as.mapM f = some bs) {b : β}
    (hb : b ∈ bs) : ∃ a ∈ as, f a = some b := by
  induction as generalizing bs with
  | nil =>
    obtain rfl : [] = bs := by simpa using h
    cases hb
  | cons a as ih =>
    simp only [List.mapM_cons, Option.pure_def, Option.bind_eq_bind, Option.bind_eq_some_iff, Option.some.injEq] at h
    obtain ⟨c, hc, cs, hcs, rfl⟩ := h
    rcases List.mem_cons.1 hb with rfl | hb
    · exact ⟨a, List.mem_cons_self, hc⟩
    · obtain ⟨a', ha', hf⟩ := ih hcs hb
      exact ⟨a', List.mem_cons_of_mem a ha', hf⟩

/-- Whether a list can be read, and as what, comes from its items alone. -/
theorem toOption_mapM {ε α β : Type} (f : α → Except ε β) (as : List α) :
    (as.mapM f).toOption = as.mapM fun a => (f a).toOption := by
  induction as with
  | nil => rfl
  | cons a as ih =>
    rw [List.mapM_cons, List.mapM_cons, ← ih]
    cases f a with
    | error e => rfl
    | ok b => cases as.mapM f <;> rfl

/-- A list is read item by item. -/
theorem mapM_eq_some_iff {α β : Type} {f : α → Option β} {as : List α} {bs : List β} :
    as.mapM f = some bs ↔ List.Forall₂ (fun a b => f a = some b) as bs := by
  induction as generalizing bs with
  | nil => simp [List.forall₂_nil_left_iff, eq_comm]
  | cons a as ih =>
    simp only [List.mapM_cons, Option.pure_def, Option.bind_eq_bind, Option.bind_eq_some_iff, Option.some.injEq,
      List.forall₂_cons_left_iff, ih]
    constructor
    · rintro ⟨b, hb, bs, hbs, rfl⟩
      exact ⟨b, bs, hb, hbs, rfl⟩
    · rintro ⟨b, bs, hb, hbs, rfl⟩
      exact ⟨b, hb, bs, hbs, rfl⟩

theorem mapM_map_eq_some {α β γ : Type} {f : β → Option γ} {g : α → β} {k : α → γ} {as : List α}
    (h : ∀ a ∈ as, f (g a) = some (k a)) : (as.map g).mapM f = some (as.map k) := by
  induction as with
  | nil => rfl
  | cons a as ih =>
    obtain ⟨ha, has⟩ := List.forall_mem_cons.1 h
    simp [ha, ih has]

/-- A list can be read exactly if every item of it can. -/
theorem mapM_isOk_iff {ε α β : Type} {f : α → Except ε β} {as : List α} :
    (∃ bs, as.mapM f = .ok bs) ↔ ∀ a ∈ as, ∃ b, f a = .ok b := by
  induction as with
  | nil => simp [pure, Except.pure]
  | cons a as ih =>
    rw [List.mapM_cons, List.forall_mem_cons, ← ih]
    constructor
    · rintro ⟨bs, h⟩
      obtain ⟨b, hb, h⟩ := bind_eq_ok.1 h
      obtain ⟨cs, hcs, -⟩ := bind_eq_ok.1 h
      exact ⟨⟨b, hb⟩, cs, hcs⟩
    · rintro ⟨⟨b, hb⟩, bs, hbs⟩
      exact ⟨b :: bs, bind_eq_ok.2 ⟨b, hb, bind_eq_ok.2 ⟨bs, hbs, rfl⟩⟩⟩

/-- Reading a list fails as the first of its items does that cannot be read. -/
theorem mapM_eq_error_iff {ε α β : Type} {f : α → Except ε β} {as : List α} {e : ε} :
    as.mapM f = .error e ↔ ∃ before a after, as = before ++ a :: after ∧ (∀ a' ∈ before, ∃ b, f a' = .ok b) ∧ f a = .error e := by
  induction as with
  | nil => simp [pure, Except.pure]
  | cons a as ih =>
    have hpure : ∀ b (cs : List β), (pure (b :: cs) : Except ε (List β)) ≠ .error e := by
      intro b cs h
      cases h
    rw [List.mapM_cons, bind_eq_error]
    constructor
    · rintro (ha | ⟨b, hb, h⟩)
      · exact ⟨[], a, as, rfl, by simp, ha⟩
      · rcases bind_eq_error.1 h with h | ⟨cs, -, h⟩
        · obtain ⟨before, a', after, rfl, hbefore, ha'⟩ := ih.1 h
          exact ⟨a :: before, a', after, rfl, List.forall_mem_cons.2 ⟨⟨b, hb⟩, hbefore⟩, ha'⟩
        · exact absurd h (hpure b cs)
    · rintro ⟨before, a', after, hsplit, hbefore, ha'⟩
      cases before with
      | nil =>
        obtain ⟨rfl, rfl⟩ := List.cons.inj hsplit
        exact .inl ha'
      | cons c before =>
        obtain ⟨rfl, rfl⟩ := List.cons.inj hsplit
        obtain ⟨⟨b, hb⟩, hrest⟩ := List.forall_mem_cons.1 hbefore
        exact .inr ⟨b, hb, bind_eq_error.2 (.inl (ih.2 ⟨before, a', after, rfl, hrest, ha'⟩))⟩

end AdConfirm
