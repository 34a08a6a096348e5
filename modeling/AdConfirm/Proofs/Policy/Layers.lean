import AdConfirm.Proofs.History
import AdConfirm.Proofs.Policy.Lay
import AdConfirm.Proofs.Policy.Leaves
import AdConfirm.Proofs.Yaml

/-!
What a loaded policy is, layer by layer.

Loading lays one overlay after the other over the built-in values: those of the files, then those of the variables, then those
of the JSON text in the environment, then the assignments. So the value of a setting is that of the last overlay for its path.
It is said to come from the last overlay that changed it: one that repeats the value in force claims nothing.

- `Layers`: the overlays that a policy is loaded from, in their order.
- `InForce`, `ComesFrom`: what a sequence of overlays says of a setting.
- `laid_of_layAll`: what is laid over the built-in values is what its overlays say.
- `layers_of_load`: a policy that loads is laid so.
- `laid_of_load`: so a loaded policy is what its layers say, setting by setting.
-/

namespace AdConfirm.Policy

/-- the leaves of a value as overlays, in the order of their keys as the value lists them -/
def leafOverlays (source : Source) (v : Json.Value) : List Overlay :=
  (v.keyedLeaves.filter fun l => l.1 ≠ []).map fun l => ⟨pathOf l.1, l.2, source⟩

/-- the overlays that a file stands for: none if it is blank, else the leaves of its document, listed by key -/
def FileLayer (f : Stored) (os : List Overlay) : Prop :=
  ∃ s, f.text = .ok s ∧
    if Text.isBlankText s.toList then os = []
    else ∃ v, Yaml.read? s = some v ∧ (v.keyedLeaves.Pairwise fun a b => a.1 < b.1) ∧ os = leafOverlays .file v

/-- the overlays that the JSON text in the environment stands for: the leaves of its value, listed by key -/
def JsonLayer (env : Environment) (os : List Overlay) : Prop :=
  match env.value? jsonVariable with
  | none => os = []
  | some s =>
    if Text.isBlankText s.toList then os = []
    else ∃ v, Json.Value.read? s = some v ∧ (v.keyedLeaves.Pairwise fun a b => a.1 < b.1) ∧ os = leafOverlays .env v

/-- the overlays that a policy is loaded from: those of the files that exist, in the order of their paths; those of the
variables, in the order of the environment, and of the JSON text, if variables are used; the assignments, if they are -/
def Layers (w : Surroundings) (o : Options) (os : List Overlay) : Prop :=
  ∃ (files : List (List Overlay)) (json : List Overlay),
    List.Forall₂ (fun path => FileLayer (w.file path)) (o.paths.filter fun path => (w.file path).exists?) files ∧
    (if o.usesVariables then JsonLayer w.env json else json = []) ∧
    os = files.flatten ++ (if o.usesVariables then w.env.filterMap fun e => variableOverlay? e.1 e.2 else []) ++ json ++
      (if o.usesAssignments then assignmentOverlays w.env else [])

/-- the overlay sets the setting to the value -/
def Sets (s : Setting) (v : s.Value) (o : Overlay) : Prop := o.path = s.path ∧ s.read o.value = .ok v

/-- the value that the overlays leave in force: that of the last one for the path of the setting, or the built-in one -/
def InForce (s : Setting) (os : List Overlay) (v : s.Value) : Prop :=
  Since (fun _ o => Sets s v o) (fun _ o => o.path = s.path) os ∨
    v = Snapshot.default.get s ∧ ¬ Ever (fun _ o => o.path = s.path) os

/-- the overlay sets the setting to another value than the one in force before it -/
def Changes (s : Setting) (before : List Overlay) (o : Overlay) : Prop :=
  ∃ v w, Sets s v o ∧ InForce s before w ∧ v ≠ w

/-- where the value in force comes from: the source of the last overlay that changed it, or built in -/
def ComesFrom (s : Setting) (os : List Overlay) (source : Source) : Prop :=
  Since (fun before o => Changes s before o ∧ o.source = source) (Changes s) os ∨
    source = .builtin ∧ ¬ Ever (Changes s) os

/-! ## Overlays laid one after the other -/

theorem inForce_snoc {s : Setting} {os : List Overlay} {o : Overlay} {v : s.Value} :
    InForce s (os ++ [o]) v ↔ Sets s v o ∨ (InForce s os v ∧ o.path ≠ s.path) := by
  rw [InForce, InForce, since_snoc, ever_snoc]
  tauto

theorem comesFrom_snoc {s : Setting} {os : List Overlay} {o : Overlay} {source : Source} :
    ComesFrom s (os ++ [o]) source ↔ (Changes s os o ∧ o.source = source) ∨ (ComesFrom s os source ∧ ¬ Changes s os o) := by
  rw [ComesFrom, ComesFrom, since_snoc, ever_snoc]
  tauto

/-- the policy is what the overlays say, laid over the built-in values: every setting has the value in force and says where it
comes from; there is an entry for each setting and for nothing else, under its own path; and the revision is the first -/
structure Laid (os : List Overlay) (p : Snapshot) : Prop where
  value : ∀ (s : Setting) (v : s.Value), InForce s os v ↔ v = p.get s
  source : ∀ (s : Setting) (source : Source), ComesFrom s os source ↔ p.provenance.find? s.path = some ⟨s.path, source⟩
  keys : ∀ key, key ∈ p.provenance.keys ↔ ∃ s : Setting, key = s.path
  own : ∀ key e, p.provenance.find? key = some e → e.path = key
  rev : p.rev = 1

namespace Snapshot

theorem rev_merge (p : Snapshot) (s : Setting) (v : s.Value) (source : Source) : (p.merge s v source).rev = p.rev := by
  unfold merge
  split
  · rfl
  · cases s <;> rfl

theorem lay_eq_ok_iff {p q : Snapshot} {o : Overlay} :
    p.lay o = .ok q ↔ ∃ (s : Setting) (v : s.Value), Sets s v o ∧ q = p.merge s v o.source := by
  constructor
  · intro h
    unfold lay at h
    split at h
    · cases h
    · next s hs =>
      split at h
      · cases h
      · next v hv => exact ⟨s, v, ⟨Setting.ofPath?_eq_some_iff.1 hs, hv⟩, (Except.ok.inj h).symm⟩
  · rintro ⟨s, v, ⟨hpath, hv⟩, rfl⟩
    simp [lay, hpath, Setting.ofPath?_path, hv]

theorem layAll_append_eq_ok {p q : Snapshot} {as bs : List Overlay} :
    p.layAll (as ++ bs) = .ok q ↔ ∃ r, p.layAll as = .ok r ∧ r.layAll bs = .ok q := by
  rw [layAll, List.foldlM_append, bind_eq_ok]
  rfl

end Snapshot

theorem get_start (s : Setting) : Snapshot.start.get s = Snapshot.default.get s := by cases s <;> rfl

/-- The built-in values say that they are. -/
theorem find?_start (key : String) :
    Snapshot.start.provenance.find? key = (Setting.ofPath? key).map fun s => ⟨s.path, .builtin⟩ := by
  cases hs : Setting.ofPath? key with
  | none =>
    have hne : ∀ s : Setting, s.path ≠ key := by
      rintro s rfl
      rw [Setting.ofPath?_path] at hs
      cases hs
    simp [Snapshot.start, Snapshot.setSource, Snapshot.default, Setting.all, Table.find?_insert, hne]
  | some s =>
    rw [Setting.ofPath?_eq_some_iff.1 hs]
    cases s <;> rfl

/-- Before the first overlay the built-in values are in force. -/
theorem laid_start : Laid [] Snapshot.start := by
  refine ⟨fun s v => ?_, fun s source => ?_, fun key => ?_, fun key e he => ?_, rfl⟩
  · rw [get_start, InForce]
    simp [not_since_nil, not_ever_nil]
  · rw [find?_start, Setting.ofPath?_path, ComesFrom]
    simp [not_since_nil, not_ever_nil, eq_comm]
  · rw [Table.mem_keys_iff, find?_start]
    simp [Option.map_eq_some_iff, Setting.ofPath?_eq_some_iff]
  · rw [find?_start, Option.map_eq_some_iff] at he
    obtain ⟨s, hs, rfl⟩ := he
    exact (Setting.ofPath?_eq_some_iff.1 hs).symm

/-- An overlay changes its setting if its value is not the one in force. -/
theorem Laid.changes_iff {os : List Overlay} {p : Snapshot} (h : Laid os p) {s s' : Setting} {v : s.Value} {o : Overlay}
    (ho : Sets s v o) : Changes s' os o ↔ s' = s ∧ p.get s ≠ v := by
  constructor
  · rintro ⟨v', w, ho', hw, hne⟩
    obtain rfl := Setting.path_injective (ho'.1.symm.trans ho.1)
    obtain rfl := Except.ok.inj (ho'.2.symm.trans ho.2)
    obtain rfl := (h.value _ _).1 hw
    exact ⟨rfl, hne.symm⟩
  · rintro ⟨rfl, hne⟩
    exact ⟨v, p.get _, ho, (h.value _ _).2 rfl, hne.symm⟩

/-- One overlay more: its setting takes its value, and says so if that is another one. -/
theorem Laid.lay {os : List Overlay} {p q : Snapshot} {o : Overlay} (h : Laid os p) (ho : p.lay o = .ok q) :
    Laid (os ++ [o]) q := by
  obtain ⟨s, v, hsets, rfl⟩ := Snapshot.lay_eq_ok_iff.1 ho
  have hfind := p.source_merge s v o.source
  refine ⟨fun s' v' => ?_, fun s' source => ?_, fun key => ?_, fun key e he => ?_, ?_⟩
  · rw [inForce_snoc]
    by_cases hs : s' = s
    · subst hs
      rw [Snapshot.get_merge]
      constructor
      · rintro (hsets' | ⟨-, hne⟩)
        · exact Except.ok.inj (hsets'.2.symm.trans hsets.2)
        · exact absurd hsets.1 hne
      · rintro rfl
        exact .inl hsets
    · have hpath : o.path ≠ s'.path := fun hpath => hs (Setting.path_injective (hpath.symm.trans hsets.1))
      rw [Snapshot.get_merge_of_ne p v _ hs, ← h.value]
      exact ⟨fun hf => hf.elim (fun hsets' => absurd hsets'.1 hpath) And.left, fun hf => .inr ⟨hf, hpath⟩⟩
  · rw [comesFrom_snoc, h.changes_iff hsets, hfind, h.source]
    by_cases hc : s' = s ∧ p.get s ≠ v
    · obtain ⟨rfl, hne⟩ := hc
      simp [hne]
    · have hcov : ¬ (s.path = s'.path ∧ p.get s ≠ v) := fun hn => hc ⟨(Setting.path_injective hn.1).symm, hn.2⟩
      simp [hc, hcov]
  · rw [Table.mem_keys_iff, hfind, ← h.keys, Table.mem_keys_iff]
    by_cases hc : s.path = key ∧ p.get s ≠ v
    · have hkey := Table.mem_keys_iff.1 ((h.keys key).2 ⟨s, hc.1.symm⟩)
      simp [hc, hkey]
    · simp [hc]
  · rw [hfind] at he
    split at he
    · next hc =>
      obtain rfl := Option.some.inj he
      exact hc.1
    · exact h.own key e he
  · rw [Snapshot.rev_merge, h.rev]

/-- What is laid over the built-in values is what its overlays say. -/
theorem laid_of_layAll {os : List Overlay} {p : Snapshot} (h : Snapshot.start.layAll os = .ok p) : Laid os p := by
  induction os using List.reverseRecOn generalizing p with
  | nil => exact Except.ok.inj h ▸ laid_start
  | append_singleton os o ih =>
    obtain ⟨q, hq, hlay⟩ := foldlM_snoc_eq_ok.1 h
    exact (ih hq).lay hlay

/-! ## Loading -/

theorem overlaysOf_eq (source : Source) (v : Json.Value) : overlaysOf source v = leafOverlays source v := by
  rw [overlaysOf, leaves_eq, leafOverlays, List.map_map]
  rfl

/-- The leaves of an object are those of its fields, each behind its key. -/
theorem leafOverlays_object (source : Source) (fields : List (String × Json.Value)) :
    leafOverlays source (.object fields) =
      fields.flatMap fun f => f.2.keyedLeaves.map fun l => ⟨pathOf (f.1 :: l.1), l.2, source⟩ := by
  rw [leafOverlays, Json.Value.keyedLeaves, Json.Value.filter_keyedFieldLeaves]
  induction fields with
  | nil => rfl
  | cons f rest ih =>
    rw [Json.Value.keyedFieldLeaves, List.map_append, ih, List.map_map, List.flatMap_cons]
    rfl

/-- The path of a setting is the one that its section and its key lead to. -/
theorem pathOf_names (s : Setting) : pathOf [s.names.1, s.names.2] = s.path := by cases s <;> decide +kernel

/-- A file stands for its overlays, listed by key. -/
theorem fileOverlays_eq_ok_iff {path : String} {f : Stored} {os : List Overlay} :
    fileOverlays path f = .ok os ↔ FileLayer f os := by
  constructor
  · intro h
    unfold fileOverlays at h
    split at h
    · cases h
    · next s hs =>
      refine ⟨s, hs, ?_⟩
      split at h
      · next hblank =>
        rw [if_pos hblank]
        exact (Except.ok.inj h).symm
      · next hblank =>
        rw [if_neg hblank]
        split at h
        · cases h
        · next v hv =>
          rw [overlaysOf_eq] at h
          exact ⟨v, hv, Json.Value.keyedLeaves_ordered (Yaml.ordered_of_read? hv), (Except.ok.inj h).symm⟩
  · rintro ⟨s, hs, hlayer⟩
    simp only [fileOverlays, hs]
    split at hlayer
    · next hblank => rw [if_pos hblank, hlayer]
    · next hblank =>
      obtain ⟨v, hv, -, rfl⟩ := hlayer
      simp only [if_neg hblank, hv, overlaysOf_eq]

/-- The files that exist are laid one after the other. -/
theorem files_of_loadFiles {file : String → Stored} {p q : Snapshot} {paths : List String}
    (h : (loadFiles file p paths).2 = .ok q) :
    ∃ files, List.Forall₂ (fun path => FileLayer (file path)) (paths.filter fun path => (file path).exists?) files ∧
      p.layAll files.flatten = .ok q := by
  induction paths generalizing p with
  | nil => exact ⟨[], .nil, h⟩
  | cons path rest ih =>
    unfold loadFiles at h
    cases hex : (file path).exists? with
    | false =>
      simp only [hex, Bool.false_eq_true, if_false] at h
      simp only [List.filter_cons, hex, Bool.false_eq_true, if_false]
      exact ih h
    | true =>
      simp only [hex, if_true] at h
      simp only [List.filter_cons, hex, if_true]
      split at h
      · cases h
      · next p' hp' =>
        obtain ⟨os, hos, hlay⟩ := bind_eq_ok.1 hp'
        obtain ⟨files, hfiles, hq⟩ := ih h
        refine ⟨os :: files, .cons (fileOverlays_eq_ok_iff.1 hos) hfiles, ?_⟩
        rw [List.flatten_cons]
        exact Snapshot.layAll_append_eq_ok.2 ⟨p', hlay, hq⟩

/-- The variables come before the leaves of the JSON text. -/
theorem json_of_variableOverlays {env : Environment} {os : List Overlay} (h : variableOverlays env = .ok os) :
    ∃ json, JsonLayer env json ∧ os = (env.filterMap fun e => variableOverlay? e.1 e.2) ++ json := by
  unfold variableOverlays at h
  unfold JsonLayer
  cases hs : env.value? jsonVariable with
  | none =>
    rw [hs] at h
    exact ⟨[], rfl, by simpa using (Except.ok.inj h).symm⟩
  | some s =>
    simp only [hs] at h
    split at h
    · next hblank => exact ⟨[], by simp [hblank], by simpa using (Except.ok.inj h).symm⟩
    · next hblank =>
      cases hv : Json.Value.read? s with
      | none =>
        rw [hv] at h
        cases h
      | some v =>
        rw [hv] at h
        have hlist : (env.filterMap fun e => variableOverlay? e.1 e.2) ++ overlaysOf .env v = os := Except.ok.inj h
        rw [overlaysOf_eq] at hlist
        have hordered := Json.Value.keyedLeaves_ordered (Json.Value.ordered_of_read? hv)
        refine ⟨leafOverlays .env v, ?_, hlist.symm⟩
        simp only [hblank, Bool.false_eq_true, if_false]
        exact ⟨v, hv, hordered, rfl⟩

/-- Loading goes through the files, the variables and the assignments, if they are used. -/
theorem load_eq (w : Surroundings) (o : Options) :
    load w o = (loadFiles w.file Snapshot.start o.paths).2 >>= fun q =>
      (if o.usesVariables then variableOverlays w.env >>= q.layAll else .ok q) >>= fun r =>
        if o.usesAssignments then r.layAll (assignmentOverlays w.env) else .ok r := by
  cases hv : o.usesVariables <;> simp only [load, loadNoting, hv, if_true, Bool.false_eq_true, if_false] <;> rfl

/-- A policy that loads is laid from its layers. -/
theorem layers_of_load {w : Surroundings} {o : Options} {p : Snapshot} (h : load w o = .ok p) :
    ∃ os, Layers w o os ∧ Snapshot.start.layAll os = .ok p := by
  rw [load_eq] at h
  obtain ⟨q, hq, h⟩ := bind_eq_ok.1 h
  obtain ⟨r, hr, h⟩ := bind_eq_ok.1 h
  obtain ⟨files, hfiles, hlayFiles⟩ := files_of_loadFiles hq
  have hvariables : ∃ json, (if o.usesVariables then JsonLayer w.env json else json = []) ∧
      q.layAll ((if o.usesVariables then w.env.filterMap fun e => variableOverlay? e.1 e.2 else []) ++ json) = .ok r := by
    cases hv : o.usesVariables with
    | false =>
      rw [hv] at hr
      exact ⟨[], rfl, hr⟩
    | true =>
      rw [hv] at hr
      obtain ⟨os, hos, hlay⟩ := bind_eq_ok.1 hr
      obtain ⟨json, hjson, rfl⟩ := json_of_variableOverlays hos
      exact ⟨json, hjson, hlay⟩
  obtain ⟨json, hjson, hlayVariables⟩ := hvariables
  have hassignments : r.layAll (if o.usesAssignments then assignmentOverlays w.env else []) = .ok p := by
    cases ha : o.usesAssignments with
    | false =>
      rw [ha] at h
      exact h
    | true =>
      rw [ha] at h
      exact h
  refine ⟨_, ⟨files, json, hfiles, hjson, rfl⟩, ?_⟩
  rw [List.append_assoc files.flatten, Snapshot.layAll_append_eq_ok]
  exact ⟨r, Snapshot.layAll_append_eq_ok.2 ⟨q, hlayFiles, hlayVariables⟩, hassignments⟩

/-- **A loaded policy is what its layers say.** Whenever a policy loads, its layers are overlays in the order of the files, the
variables, the JSON text and the assignments; every setting has the value of the last overlay for its path, or the built-in
one; its source is that of the last overlay that changed the value in force, or built in; and the table of sources has exactly
the five paths for its keys, each with its own entry. -/
theorem laid_of_load {w : Surroundings} {o : Options} {p : Snapshot} (h : load w o = .ok p) :
    ∃ os, Layers w o os ∧ Laid os p := by
  obtain ⟨os, hos, hlay⟩ := layers_of_load h
  exact ⟨os, hos, laid_of_layAll hlay⟩

/-- a file, a variable, a JSON text and assignments; each sets what another one sets, and one assignment repeats a value -/
def fourLayers : Surroundings :=
  ⟨fun path =>
      if path = "p.yaml" then .bytes "ads:\n  enabled: false\ningest:\n  fetch_timeout_ms: 9\n".toUTF8.toList else .missing,
    [("SEARCHADS_POLICY__INGEST__FETCH_TIMEOUT_MS", "250"),
      ("SEARCHADS_POLICY_OVERRIDE_JSON",
        "\x7b\"hosts\": \x7b\"allowed\": \"A.example|\"\x7d, \"ads\": \x7b\"enabled\": false\x7d\x7d"),
      ("SEARCHADS_POLICY_CLI_OVERRIDES", "ads.enabled=true, ingest.fetch_timeout_ms=250")]⟩

theorem laid_of_load_four_layers :
    ∃ p os, load fourLayers ⟨["p.yaml", "q.yaml"], true, true⟩ = .ok p ∧
      (p.adsEnabled, p.confirmationEvents, p.allowedHosts, p.fetchTimeout) = (true, true, ["a.example"], 250) ∧
      Setting.all.map (fun s => (p.provenance.find? s.path).map (·.source)) =
        [some .cli, some .builtin, some .env, some .env, some .builtin] ∧
      Layers fourLayers ⟨["p.yaml", "q.yaml"], true, true⟩ os ∧ Laid os p := by
  have hfacts : (load fourLayers ⟨["p.yaml", "q.yaml"], true, true⟩).toOption.map (fun p =>
      ((p.adsEnabled, p.confirmationEvents, p.allowedHosts, p.fetchTimeout),
        Setting.all.map fun s => (p.provenance.find? s.path).map (·.source))) =
      some ((true, true, ["a.example"], 250), [some .cli, some .builtin, some .env, some .env, some .builtin]) := by
    decide +kernel
  cases hp : load fourLayers ⟨["p.yaml", "q.yaml"], true, true⟩ with
  | error e =>
    rw [hp] at hfacts
    cases hfacts
  | ok p =>
    rw [hp] at hfacts
    obtain ⟨hvalues, hsources⟩ := Prod.mk.inj (Option.some.inj hfacts)
    obtain ⟨os, hos, hlaid⟩ := laid_of_load hp
    exact ⟨p, os, rfl, hvalues, hsources, hos, hlaid⟩

end AdConfirm.Policy
