import Mathlib.Data.List.Induction
import Mathlib.Data.List.Nodup
import AdConfirm.Policy.Center

/-!
What values laid over a policy make of it.

A value is laid over the setting that its path names. It is in force from then on, and said to come from its source only if
it differs from the value it covers; so laying a value of the base over it leaves no trace.

- `get_merge`, `source_merge`: what one value changes.
- `Overlaid`: a policy that is a base with values over it, said setting by setting.
- `layAll_overlaid`: laying readable values for different paths over a base gives that.
-/

namespace AdConfirm.Policy

namespace Setting

theorem ofPath?_path (s : Setting) : ofPath? s.path = some s := by cases s <;> rfl

theorem path_injective {s s' : Setting} (h : s.path = s'.path) : s = s' := by
  have hs := ofPath?_path s
  rw [h, ofPath?_path] at hs
  exact (Option.some.inj hs).symm

theorem ofPath?_eq_some_iff {path : String} {s : Setting} : ofPath? path = some s ↔ path = s.path := by
  constructor
  · intro h
    have hpath := List.find?_some (p := fun s : Setting => s.path == path) h
    exact (beq_iff_eq.1 hpath).symm
  · rintro rfl
    exact ofPath?_path s

end Setting

namespace Snapshot

theorem get_put (p : Snapshot) (s : Setting) (v : s.Value) : (p.put s v).get s = v := by cases s <;> rfl

theorem get_put_of_ne (p : Snapshot) {s s' : Setting} (v : s.Value) (h : s' ≠ s) : (p.put s v).get s' = p.get s' := by
  cases s <;> cases s' <;> first | rfl | exact absurd rfl h

theorem get_setSource (p : Snapshot) (path : String) (source : Source) (s : Setting) :
    (p.setSource path source).get s = p.get s := by cases s <;> rfl

theorem provenance_put (p : Snapshot) (s : Setting) (v : s.Value) : (p.put s v).provenance = p.provenance := by
  cases s <;> rfl

/-- A merged value is in force. -/
theorem get_merge (p : Snapshot) (s : Setting) (v : s.Value) (source : Source) : (p.merge s v source).get s = v := by
  unfold merge
  split
  · assumption
  · rw [get_setSource, get_put]

theorem get_merge_of_ne (p : Snapshot) {s s' : Setting} (v : s.Value) (source : Source) (h : s' ≠ s) :
    (p.merge s v source).get s' = p.get s' := by
  unfold merge
  split
  · rfl
  · rw [get_setSource, get_put_of_ne p v h]

/-- A merged value is said to come from its source if it was not in force before; no other source changes. -/
theorem source_merge (p : Snapshot) (s : Setting) (v : s.Value) (source : Source) (key : String) :
    (p.merge s v source).provenance.find? key =
      if s.path = key ∧ p.get s ≠ v then some ⟨s.path, source⟩ else p.provenance.find? key := by
  unfold merge
  split
  · next h => simp [h]
  · next h =>
    rw [setSource, provenance_put, Table.find?_insert]
    simp [h]

end Snapshot

/-- the path names a setting, and the value is one that the setting can take -/
def Readable (path : String) (x : Json.Value) : Prop := ∃ (s : Setting) (v : s.Value), path = s.path ∧ s.read x = .ok v

/-- the policy is the base with exactly these values over it: a value that covers its setting is in force, as an override if
it is not the value of the base; all other values and sources are those of the base -/
structure Overlaid (base p : Snapshot) (cover : String → Json.Value → Prop) : Prop where
  readable : ∀ path x, cover path x → Readable path x
  covered : ∀ (s : Setting) x (v : s.Value), cover s.path x → s.read x = .ok v →
    p.get s = v ∧ p.provenance.find? s.path =
      if base.get s = v then base.provenance.find? s.path else some ⟨s.path, .runtimeOverride⟩
  uncovered : ∀ s : Setting, (∀ x, ¬ cover s.path x) →
    p.get s = base.get s ∧ p.provenance.find? s.path = base.provenance.find? s.path
  elsewhere : ∀ key, Setting.ofPath? key = none → p.provenance.find? key = base.provenance.find? key

theorem Overlaid.congr {base p : Snapshot} {cover cover' : String → Json.Value → Prop} (h : Overlaid base p cover)
    (he : ∀ path x, cover path x ↔ cover' path x) : Overlaid base p cover' := by
  have heq : cover = cover' := funext fun path => funext fun x => propext (he path x)
  exact heq ▸ h

/-- The revision is no part of what is overlaid. -/
theorem Overlaid.withRev {base p : Snapshot} {cover : String → Json.Value → Prop} (h : Overlaid base p cover)
    (rev : UInt64) : Overlaid base { p with rev } cover := by
  have hget : ∀ s : Setting, ({ p with rev } : Snapshot).get s = p.get s := fun s => by cases s <;> rfl
  refine ⟨h.readable, fun s x v hx hv => ?_, fun s hs => ?_, h.elsewhere⟩
  · rw [hget]
    exact h.covered s x v hx hv
  · rw [hget]
    exact h.uncovered s hs

theorem overlaid_refl (p : Snapshot) : Overlaid p p fun _ _ => False :=
  ⟨fun _ _ h => h.elim, fun _ _ _ h => h.elim, fun _ _ => ⟨rfl, rfl⟩, fun _ _ => rfl⟩

/-- A value for a path that nothing covers yet is laid over what is there. -/
theorem Overlaid.lay {base p : Snapshot} {cover : String → Json.Value → Prop} (h : Overlaid base p cover) {path : String}
    {x : Json.Value} (hx : Readable path x) (hfree : ∀ y, ¬ cover path y) :
    ∃ q, p.lay ⟨path, x, .runtimeOverride⟩ = .ok q ∧
      Overlaid base q fun path' y => cover path' y ∨ path' = path ∧ y = x := by
  obtain ⟨s, v, rfl, hv⟩ := hx
  obtain ⟨hget, hsource⟩ := h.uncovered s hfree
  refine ⟨p.merge s v .runtimeOverride, by simp [Snapshot.lay, Setting.ofPath?_path, hv], ?_, ?_, ?_, ?_⟩
  · rintro path' y (hy | ⟨rfl, rfl⟩)
    · exact h.readable path' y hy
    · exact ⟨s, v, rfl, hv⟩
  · rintro s' y w hy hw
    rw [Snapshot.source_merge]
    rcases hy with hy | ⟨hpath, rfl⟩
    · have hne : s' ≠ s := by
        rintro rfl
        exact hfree y hy
      rw [Snapshot.get_merge_of_ne p v _ hne, if_neg fun hs => hne (Setting.path_injective hs.1).symm]
      exact h.covered s' y w hy hw
    · obtain rfl := Setting.path_injective hpath
      obtain rfl : v = w := Except.ok.inj (hv.symm.trans hw)
      refine ⟨Snapshot.get_merge p _ v _, ?_⟩
      rw [hget, hsource]
      by_cases hsame : base.get s' = v <;> simp [hsame]
  · intro s' hs'
    have hne : s' ≠ s := by
      rintro rfl
      exact hs' x (.inr ⟨rfl, rfl⟩)
    rw [Snapshot.get_merge_of_ne p v _ hne, Snapshot.source_merge, if_neg fun hs => hne (Setting.path_injective hs.1).symm]
    exact h.uncovered s' fun y hy => hs' y (.inl hy)
  · intro key hkey
    have hne : s.path ≠ key := by
      rintro rfl
      rw [Setting.ofPath?_path] at hkey
      cases hkey
    rw [Snapshot.source_merge, if_neg fun hs => hne hs.1]
    exact h.elsewhere key hkey

/-- Readable values for different paths are laid over a base, each over its setting. -/
theorem layAll_overlaid (base : Snapshot) {values : List (String × Json.Value)} (hn : (values.map (·.1)).Nodup)
    (hr : ∀ path x, (path, x) ∈ values → Readable path x) :
    ∃ p, base.layAll (Center.overlays values) = .ok p ∧ Overlaid base p fun path x => (path, x) ∈ values := by
  induction values using List.reverseRecOn with
  | nil => exact ⟨base, rfl, (overlaid_refl base).congr (by simp)⟩
  | append_singleton values e ih =>
    obtain ⟨path, x⟩ := e
    rw [List.map_append, List.nodup_append] at hn
    obtain ⟨p, hp, hover⟩ := ih hn.1 fun path y hy => hr path y (List.mem_append_left _ hy)
    have hfree : ∀ y, (path, y) ∉ values := fun y hy =>
      hn.2.2 path (List.mem_map.2 ⟨(path, y), hy, rfl⟩) path (by simp) rfl
    obtain ⟨q, hq, hover'⟩ := hover.lay (hr path x (by simp)) hfree
    refine ⟨q, ?_, hover'.congr (by simp)⟩
    rw [Snapshot.layAll, Center.overlays] at hp ⊢
    rw [List.map_append, List.foldlM_append, hp]
    simp only [List.map_cons, List.map_nil, List.foldlM_cons, List.foldlM_nil]
    exact congrArg (· >>= pure) hq

end AdConfirm.Policy
