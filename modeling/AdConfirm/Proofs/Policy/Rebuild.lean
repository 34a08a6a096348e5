import AdConfirm.Proofs.Policy.Lay
import AdConfirm.Proofs.Table

/-!
What every change of a policy center leaves behind.

Whatever takes effect drops the overrides that have expired and rebuilds the policy from the base and those that are left.
Only readable overrides are ever held, so rebuilding never fails.

- `Sound`: the policy is the base with the overrides that are held over it, and who watches sees it.
- `refresh_rebuilt`: rebuilding makes a center sound and drops what has expired.
- `OverrideSpec.Applies`: the overrides that can be applied at a moment.
- `apply_eq_of_applies`, `clear_eq_of_held`, `reload_eq_of_load`, `expire_cases`: each change, as what is held when the center is
  rebuilt.
-/

namespace AdConfirm.Policy

/-- What is made for the store is made now, and its deadline is one that the clock can tell. -/
theorem Overrides.make?_eq_some_iff {value : Json.Value} {owner reason : String} {ttl : Option Nat} {now : Nat} {o : Override} :
    make? value owner reason ttl now = some o ↔
      (∀ t, ttl = some t → now + t < clockSize) ∧ o = ⟨value, owner, reason, ttl.map (now + ·)⟩ := by
  cases ttl <;> simp [make?, eq_comm]

namespace OverrideSpec

/-- the override lasts for good, or the clock can tell when it ends if it is applied now -/
def Fits (s : OverrideSpec) (now : Nat) : Prop := s.ttl = 0 ∨ now + 1000 * s.ttl.toNat < clockSize

/-- the override can be applied now -/
def Applies (s : OverrideSpec) (now : Nat) : Prop := Readable s.path s.value ∧ s.Fits now

variable {s : OverrideSpec} {o : Override} {applied now : Nat}

/-- What is stored is the value, to be kept for good or until its time to live is over. -/
theorem make?_eq_some_iff :
    s.make? now = some o ↔ s.Fits now ∧ o = ⟨s.value, s.owner, s.reason, s.seconds?.map (now + 1000 * ·)⟩ := by
  rw [make?, Overrides.make?_eq_some_iff, Option.map_map]
  refine and_congr_left fun _ => ?_
  by_cases httl : s.ttl = 0 <;> simp [seconds?, Fits, httl]

theorem exists_make? (h : s.Fits now) : ∃ o, s.make? now = some o := ⟨_, make?_eq_some_iff.2 ⟨h, rfl⟩⟩

theorem value_of_make? (h : s.make? now = some o) : o.value = s.value := by
  rw [(make?_eq_some_iff.1 h).2]

/-- An override is live for its time to live from when it was applied, or for good. -/
theorem isLive_iff_of_make? (h : s.make? applied = some o) :
    o.isLive now = true ↔ s.ttl = 0 ∨ now < applied + 1000 * s.ttl.toNat := by
  rw [(make?_eq_some_iff.1 h).2]
  by_cases httl : s.ttl = 0 <;> simp [seconds?, Override.isLive, httl]

theorem isLive_of_make? (h : s.make? now = some o) : o.isLive now = true := by
  rw [isLive_iff_of_make? h]
  refine or_iff_not_imp_left.2 fun httl => ?_
  have hpos : s.ttl.toNat ≠ 0 := fun hzero => httl (UInt64.toNat_inj.1 hzero)
  omega

end OverrideSpec

theorem find?_purge_eq_some_iff {s : Overrides} {now : Nat} {path : String} {o : Override} :
    (s.purge now).find? path = some o ↔ s.find? path = some o ∧ o.isLive now = true :=
  Table.find?_filter_eq_some_iff

namespace Center

/-- the override of the path is held and has this value -/
def Holds (c : Center) (path : String) (x : Json.Value) : Prop := ∃ o, c.overrides.find? path = some o ∧ o.value = x

/-- the policy is the base with the overrides that are held over it, and who watches sees it -/
structure Sound (c : Center) : Prop where
  overlaid : Overlaid c.base c.snapshot c.Holds
  watched : c.watched = c.snapshot

/-- the center with what has expired dropped and all else the same, made sound -/
structure Rebuilt (c : Center) (now : Nat) (c' : Center) : Prop where
  base : c'.base = c.base
  source : c'.source = c.source
  held : ∀ path o, c'.overrides.find? path = some o ↔ c.overrides.find? path = some o ∧ o.isLive now = true
  sound : c'.Sound

theorem Sound.readable {c : Center} (h : c.Sound) {path : String} {o : Override} (ho : c.overrides.find? path = some o) :
    Readable path o.value := h.overlaid.readable path o.value ⟨o, ho, rfl⟩

theorem build_sound (base : Snapshot) (source : Option Options) : (build base source).Sound := by
  refine ⟨(overlaid_refl base).congr fun path x => ?_, rfl⟩
  simp [Holds, build]

/-- A center is built from options if a policy loads; it is built on that. -/
theorem ofOptions_eq_ok_iff {w : Surroundings} {o : Options} {c : Center} :
    ofOptions w o = .ok c ↔ ∃ p, load w o = .ok p ∧ c = build p (some o) := by
  unfold ofOptions
  cases load w o <;> simp [Except.map, eq_comm]

/-- Where all overrides are readable, rebuilding succeeds. -/
theorem refresh_rebuilt {c : Center} (now : Nat) (h : ∀ path o, c.overrides.find? path = some o → Readable path o.value) :
    ∃ c', c.refresh now = (c', .ok ()) ∧ c.Rebuilt now c' := by
  set values := (c.overrides.active now).2
  have hmem : ∀ path x, (path, x) ∈ values ↔ ∃ o, (c.overrides.purge now).find? path = some o ∧ o.value = x := by
    intro path x
    simp only [values, Overrides.active, List.mem_map, Prod.exists, Prod.mk.injEq, ← Table.mem_entries_iff]
    constructor
    · rintro ⟨path, o, ho, rfl, rfl⟩
      exact ⟨o, ho, rfl⟩
    · rintro ⟨o, ho, rfl⟩
      exact ⟨path, o, ho, rfl, rfl⟩
  have hkeys : (values.map (·.1)).Nodup := by
    have heq : values.map (·.1) = (c.overrides.purge now).keys := by
      simp only [values, Overrides.active, List.map_map]
      rfl
    exact heq ▸ Table.nodup_keys _
  have hreadable : ∀ path x, (path, x) ∈ values → Readable path x := by
    intro path x hx
    obtain ⟨o, ho, rfl⟩ := (hmem path x).1 hx
    exact h path o (find?_purge_eq_some_iff.1 ho).1
  obtain ⟨p, hp, hover⟩ := layAll_overlaid c.base hkeys hreadable
  set rev := nextRevision c.revision
  set c' := publish { c with overrides := c.overrides.purge now, revision := rev, snapshot := { p with rev } }
  refine ⟨c', ?_, rfl, rfl, fun path o => find?_purge_eq_some_iff, ⟨(hover.withRev rev).congr hmem, rfl⟩⟩
  have hrecompute : c.recompute now =
      ({ c with overrides := c.overrides.purge now, revision := rev, snapshot := { p with rev } }, .ok ()) := by
    simp only [recompute, Overrides.active] at hp ⊢
    simp only [values, Overrides.active] at hp
    simp only [hp]
    rfl
  simp only [refresh, hrecompute]
  rfl

/-- What may be applied is what is readable. -/
theorem check_eq_ok_iff {s : OverrideSpec} : check s = .ok () ↔ Readable s.path s.value := by
  constructor
  · intro h
    unfold check Snapshot.lay at h
    cases hs : Setting.ofPath? s.path with
    | none =>
      rw [hs] at h
      cases h
    | some x =>
      cases hv : x.read s.value with
      | error e => simp [hs, hv, Except.map] at h
      | ok v => exact ⟨x, v, Setting.ofPath?_eq_some_iff.1 hs, hv⟩
  · intro h
    obtain ⟨q, hq, -⟩ := (overlaid_refl Snapshot.blank).lay h fun _ => id
    rw [check, hq]
    rfl

/-- An override that can be applied is applied, and its timer is to be set if it has a time to live. -/
theorem apply_eq_of_applies {c : Center} (h : c.Sound) {now : Nat} {s : OverrideSpec} (hs : s.Applies now) :
    ∃ o c', s.make? now = some o ∧ c.apply now s = (c', .ok s.timer?) ∧
      { c with overrides := c.overrides.insert s.path o }.Rebuilt now c' := by
  obtain ⟨hreadable, hfits⟩ := hs
  obtain ⟨o, ho⟩ := OverrideSpec.exists_make? hfits
  have hall : ∀ path o', (c.overrides.insert s.path o).find? path = some o' → Readable path o'.value := by
    intro path o' ho'
    rw [Table.find?_insert] at ho'
    split at ho'
    · next hpath =>
      obtain rfl := Option.some.inj ho'
      exact hpath ▸ OverrideSpec.value_of_make? ho ▸ hreadable
    · exact h.readable ho'
  obtain ⟨c', hc', hrebuilt⟩ := refresh_rebuilt (c := { c with overrides := c.overrides.insert s.path o }) now hall
  exact ⟨o, c', ho, by simp only [apply, check_eq_ok_iff.2 hreadable, ho, hc'], hrebuilt⟩

theorem apply_of_check_error (c : Center) (now : Nat) {s : OverrideSpec} {e : PolicyError} (h : check s = .error e) :
    c.apply now s = (c, .error (.failed e)) := by
  simp only [apply, h]

theorem apply_of_not_fits (c : Center) {now : Nat} {s : OverrideSpec} (h : check s = .ok ()) (hfits : ¬ s.Fits now) :
    c.apply now s = (c, .error .brokeDown) := by
  have hnone : s.make? now = none := by
    refine Option.eq_none_iff_forall_not_mem.2 fun o ho => hfits ?_
    exact (OverrideSpec.make?_eq_some_iff.1 ho).1
  simp only [apply, h, hnone]

/-- No other override is applied: it fails, or the call breaks down. -/
theorem apply_eq_of_not_applies (c : Center) {now : Nat} {s : OverrideSpec} (hs : ¬ s.Applies now) :
    ∃ fault, c.apply now s = (c, .error fault) := by
  cases hcheck : check s with
  | error e => exact ⟨.failed e, c.apply_of_check_error now hcheck⟩
  | ok u => exact ⟨.brokeDown, c.apply_of_not_fits hcheck fun hfits => hs ⟨check_eq_ok_iff.1 hcheck, hfits⟩⟩

theorem clear_eq_of_not_held {c : Center} (now : Nat) {path : String} (h : c.overrides.find? path = none) :
    c.clear now path = (c, .ok false) := by
  simp only [clear, Overrides.remove, h]

theorem find?_erase_eq_some_iff {s : Overrides} {path q : String} {o : Override} :
    (s.erase path).find? q = some o ↔ path ≠ q ∧ s.find? q = some o := by
  rw [Table.find?_erase]
  split
  · next h => simp [h]
  · next h => simp [h]

theorem erase_rebuilt {c : Center} (h : c.Sound) (now : Nat) (path : String) :
    ∃ c', { c with overrides := c.overrides.erase path }.refresh now = (c', .ok ()) ∧
      { c with overrides := c.overrides.erase path }.Rebuilt now c' :=
  refresh_rebuilt now fun _ _ ho => h.readable (find?_erase_eq_some_iff.1 ho).2

/-- An override that is held is taken back. -/
theorem clear_eq_of_held {c : Center} (h : c.Sound) (now : Nat) {path : String} {o : Override}
    (ho : c.overrides.find? path = some o) :
    ∃ c', c.clear now path = (c', .ok true) ∧ { c with overrides := c.overrides.erase path }.Rebuilt now c' := by
  obtain ⟨c', hc', hrebuilt⟩ := erase_rebuilt h now path
  refine ⟨c', ?_, hrebuilt⟩
  simp only [clear, Overrides.remove, ho, hc']

/-- A base that loads is taken over, with the overrides as they are. -/
theorem reload_eq_of_load {c : Center} (h : c.Sound) (now : Nat) {w : Surroundings} {x : Options} {base : Snapshot}
    (hx : c.source = some x) (hbase : load w x = .ok base) :
    (c.reload now w).2.1 = .ok () ∧ { c with base }.Rebuilt now (c.reload now w).1 := by
  obtain ⟨c', hc', hrebuilt⟩ := refresh_rebuilt (c := { c with base }) now fun path o ho => h.readable ho
  have hload : (loadNoting w x).2 = .ok base := hbase
  obtain ⟨base₀, snapshot, overrides, revision, watched, published, source⟩ := c
  obtain rfl : source = some x := hx
  simp only [reload, hload, hc', true_and]
  exact hrebuilt

/-- Nothing else is taken over by a reload. -/
theorem reload_eq_of_not_load {c : Center} (now : Nat) {w : Surroundings}
    (h : ∀ x base, c.source = some x → load w x ≠ .ok base) :
    (c.reload now w).1 = c ∧ (c.reload now w).2.1 ≠ .ok () := by
  cases hx : c.source with
  | none => simp [reload, hx]
  | some x =>
    cases hload : (loadNoting w x).2 with
    | ok base => exact absurd hload (h x base hx)
    | error e => simp [reload, hx, hload]

/-- A timer that runs down takes back the override of its path if that has expired, and else does nothing. -/
theorem expire_cases {c : Center} (h : c.Sound) (now : Nat) (path : String) :
    (c.expire now path = c ∧ ∀ o, c.overrides.find? path = some o → o.isLive now = true) ∨
      c.Rebuilt now (c.expire now path) := by
  cases ho : c.overrides.find? path with
  | none => exact .inl ⟨by simp [expire, Overrides.expire, ho], by simp⟩
  | some o =>
    cases hlive : o.isLive now with
    | true =>
      refine .inl ⟨by simp [expire, Overrides.expire, ho, hlive], fun o' ho' => ?_⟩
      obtain rfl := Option.some.inj ho'
      exact hlive
    | false =>
      obtain ⟨c', hc', hrebuilt⟩ := erase_rebuilt h now path
      have heq : c.expire now path = c' := by simp [expire, Overrides.expire, ho, hlive, hc']
      refine .inr (heq ▸ ⟨hrebuilt.base, hrebuilt.source, fun q o' => ?_, hrebuilt.sound⟩)
      rw [hrebuilt.held, find?_erase_eq_some_iff]
      -- the override of the path would have been dropped with the expired ones anyway
      constructor
      · rintro ⟨⟨-, ho'⟩, hlive'⟩
        exact ⟨ho', hlive'⟩
      · rintro ⟨ho', hlive'⟩
        refine ⟨⟨?_, ho'⟩, hlive'⟩
        rintro rfl
        obtain rfl := Option.some.inj (ho.symm.trans ho')
        rw [hlive] at hlive'
        cases hlive'

end Center

end AdConfirm.Policy
