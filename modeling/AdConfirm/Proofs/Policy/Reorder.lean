import AdConfirm.Proofs.Policy.Defect

/-!
Variables in any order.

Overlays for different paths may change places: each looks at its own setting alone, to see whether it changes it, and records its
source under a path of its own. So however an environment lists its variables, as long as no two of them spell the same path, the
same policy is loaded from it, or none.

- `Snapshot.ext_of_find?`: policies with the same values, sources and revision are the same.
- `merge_comm`, `lay_swap`: two overlays for different paths change places. `layAll_perm`: so do many.
- `Environment.Unambiguous`: no two variables spell the same path. `value?_perm`, `namedOverlays_nodup`: then a look-up gives the
  same in every order, and the variables have overlays for different paths.
- `load_eq_ok_of_perm`: a policy that loads from an environment loads from it in every order.
- `load_in_any_order`: so it is the same policy in every order, or there is none in any.
-/

namespace AdConfirm

namespace Policy

/-! ## Overlays for different paths -/

/-- Policies with the same values, the same sources and the same revision are the same. -/
theorem Snapshot.ext_of_find? {p q : Snapshot} (hvalue : ∀ s : Setting, p.get s = q.get s)
    (hsource : ∀ key, p.provenance.find? key = q.provenance.find? key) (hrev : p.rev = q.rev) : p = q := by
  obtain ⟨rev, ads, events, hosts, fetch, report, provenance⟩ := p
  obtain ⟨rev', ads', events', hosts', fetch', report', provenance'⟩ := q
  obtain rfl : rev = rev' := hrev
  obtain rfl : ads = ads' := hvalue .adsEnabled
  obtain rfl : events = events' := hvalue .confirmationEvents
  obtain rfl : hosts = hosts' := hvalue .allowedHosts
  obtain rfl : fetch = fetch' := hvalue .fetchTimeout
  obtain rfl : report = report' := hvalue .reportTimeout
  obtain rfl : provenance = provenance' := Table.ext_of_find? fun key e => by rw [hsource key]
  rfl

/-- Values for different settings may be merged in either order. -/
theorem Snapshot.merge_comm (p : Snapshot) {s t : Setting} (h : s ≠ t) (v : s.Value) (w : t.Value) (source source' : Source) :
    (p.merge s v source).merge t w source' = (p.merge t w source').merge s v source := by
  have hpath : s.path ≠ t.path := fun heq => h (Setting.path_injective heq)
  refine Snapshot.ext_of_find? (fun x => ?_) (fun key => ?_) (by simp only [rev_merge])
  · by_cases hs : x = s
    · subst hs
      rw [get_merge_of_ne _ w _ h, get_merge, get_merge]
    · by_cases ht : x = t
      · subst ht
        rw [get_merge, get_merge_of_ne _ v _ hs, get_merge]
      · simp only [get_merge_of_ne _ v _ hs, get_merge_of_ne _ w _ ht]
  · simp only [source_merge, get_merge_of_ne p v source h.symm, get_merge_of_ne p w source' h]
    by_cases hs : s.path = key
    · subst hs
      simp [hpath.symm]
    · simp [hs]

/-- Two overlays for different paths may be laid in either order. -/
theorem lay_swap {p q r : Snapshot} {a b : Overlay} (h : a.path ≠ b.path) (ha : p.lay a = .ok q) (hb : q.lay b = .ok r) :
    ∃ q', p.lay b = .ok q' ∧ q'.lay a = .ok r := by
  obtain ⟨s, v, hv, rfl⟩ := Snapshot.lay_eq_ok_iff.1 ha
  obtain ⟨t, w, hw, rfl⟩ := Snapshot.lay_eq_ok_iff.1 hb
  have hne : s ≠ t := by
    rintro rfl
    exact h (hv.1.trans hw.1.symm)
  exact ⟨_, Snapshot.lay_eq_ok_iff.2 ⟨t, w, hw, rfl⟩, Snapshot.lay_eq_ok_iff.2 ⟨s, v, hv, p.merge_comm hne v w _ _⟩⟩

theorem layAll_cons_eq_ok {p r : Snapshot} {o : Overlay} {os : List Overlay} :
    p.layAll (o :: os) = .ok r ↔ ∃ q, p.lay o = .ok q ∧ q.layAll os = .ok r := by
  rw [Snapshot.layAll, List.foldlM_cons, bind_eq_ok]
  rfl

/-- **Overlays for different paths may be laid in any order.** -/
theorem layAll_perm {os os' : List Overlay} (hperm : os.Perm os') (hn : (os.map (·.path)).Nodup) {p q : Snapshot}
    (h : p.layAll os = .ok q) : p.layAll os' = .ok q := by
  induction hperm generalizing p with
  | nil => exact h
  | cons o _ ih =>
    obtain ⟨r, hr, hrest⟩ := layAll_cons_eq_ok.1 h
    exact layAll_cons_eq_ok.2 ⟨r, hr, ih (List.nodup_cons.1 hn).2 hrest⟩
  | swap a b os =>
    obtain ⟨r, hb, h⟩ := layAll_cons_eq_ok.1 h
    obtain ⟨r', ha, hrest⟩ := layAll_cons_eq_ok.1 h
    have hne : b.path ≠ a.path := fun heq => (List.nodup_cons.1 hn).1 (by simp [heq])
    obtain ⟨r'', ha, hb⟩ := lay_swap hne hb ha
    exact layAll_cons_eq_ok.2 ⟨r'', ha, layAll_cons_eq_ok.2 ⟨r', hb, hrest⟩⟩
  | trans hfirst _ ih ih' => exact ih' ((hfirst.map _).nodup_iff.1 hn) (ih hn h)

end Policy

open Policy

/-! ## Environments -/

namespace Environment

/-- every variable is there once, and of two different ones that spell the same path neither spells any: their paths tell the
variables apart -/
structure Unambiguous (env : Environment) : Prop where
  names : (env.map (·.1)).Nodup
  paths : ∀ a ∈ env, ∀ b ∈ env, a.1 ≠ b.1 → variablePath? a.1 = variablePath? b.1 → variablePath? a.1 = none

variable {env env' : Environment}

theorem Unambiguous.perm (h : env.Unambiguous) (hperm : env.Perm env') : env'.Unambiguous :=
  ⟨(hperm.map _).nodup_iff.1 h.names, fun a ha b hb => h.paths a (hperm.mem_iff.2 ha) b (hperm.mem_iff.2 hb)⟩

/-- The value of a variable is the first one that is listed for it. -/
theorem value?_eq_lookup (env : Environment) (name : String) : env.value? name = Table.lookup name env := by
  induction env with
  | nil => rfl
  | cons e rest ih =>
    rw [Table.lookup, ← ih]
    by_cases hname : e.1 = name <;> simp [value?, hname]

/-- So the order makes no difference to look-ups if every variable is there once. -/
theorem value?_perm (hn : (env.map (·.1)).Nodup) (hperm : env.Perm env') (name : String) :
    env'.value? name = env.value? name := by
  have hlisted : ∀ env : Environment, (env.map (·.1)).Nodup → ∀ value, env.value? name = some value ↔ (name, value) ∈ env := by
    intro env hn value
    rw [value?_eq_lookup]
    exact ⟨Table.mem_of_lookup_eq_some, Table.lookup_eq_some_of_mem hn⟩
  refine Option.ext fun value => ?_
  rw [hlisted env hn, hlisted env' ((hperm.map _).nodup_iff.1 hn), hperm.mem_iff]

/-- Variables that their paths tell apart have overlays for different paths. -/
theorem Unambiguous.namedOverlays_nodup (h : env.Unambiguous) : ((namedOverlays env).map (·.path)).Nodup := by
  have hdistinct : env.Pairwise fun a b => a.1 ≠ b.1 := List.pairwise_map.1 h.names
  rw [List.Nodup, List.pairwise_map, namedOverlays, List.pairwise_filterMap]
  refine hdistinct.imp_of_mem fun {a b} ha hb hne x hx y hy heq => ?_
  obtain ⟨path, hpath, rfl⟩ := Option.map_eq_some_iff.1 hx
  obtain ⟨path', hpath', rfl⟩ := Option.map_eq_some_iff.1 hy
  obtain rfl : path = path' := heq
  have hnone := h.paths a ha b hb hne (hpath.trans hpath'.symm)
  rw [hpath] at hnone
  cases hnone

end Environment

/-! ## Policies -/

namespace Policy

variable {file : String → Stored} {o : Options} {env env' : Environment}

/-- What the variables lay is laid in every order of the environment, and the leaves of the JSON text behind it. -/
theorem layVariables_perm (h : env.Unambiguous) (hperm : env.Perm env') {p q : Snapshot}
    (hlay : layVariables env p = .ok q) : layVariables env' p = .ok q := by
  obtain ⟨os, hos, hlay⟩ := bind_eq_ok.1 hlay
  obtain ⟨json, hjson, rfl⟩ := variableOverlays_eq_ok_iff.1 hos
  obtain ⟨r, hnamed, hrest⟩ := Snapshot.layAll_append_eq_ok.1 hlay
  have hjson' : JsonLayer env' json := by
    rw [JsonLayer, Environment.value?_perm h.names hperm]
    exact hjson
  have hnamed' := layAll_perm (hperm.filterMap _) h.namedOverlays_nodup hnamed
  exact bind_eq_ok.2 ⟨_, variableOverlays_eq_ok_iff.2 ⟨json, hjson', rfl⟩, Snapshot.layAll_append_eq_ok.2 ⟨r, hnamed', hrest⟩⟩

/-- A policy that loads from an environment loads from it in every order. -/
theorem load_eq_ok_of_perm (h : env.Unambiguous) (hperm : env.Perm env') {p : Snapshot} (hload : load ⟨file, env⟩ o = .ok p) :
    load ⟨file, env'⟩ o = .ok p := by
  rw [load_eq] at hload ⊢
  obtain ⟨q, hq, hload⟩ := bind_eq_ok.1 hload
  obtain ⟨r, hr, hassigned⟩ := bind_eq_ok.1 hload
  refine bind_eq_ok.2 ⟨q, hq, bind_eq_ok.2 ⟨r, ?_, ?_⟩⟩
  · by_cases hused : o.usesVariables = true
    · rw [if_pos hused] at hr ⊢
      exact layVariables_perm h hperm hr
    · rw [if_neg hused] at hr ⊢
      exact hr
  · rw [assignmentOverlays, Environment.value?_perm h.names hperm]
    exact hassigned

/-- **A policy loads alike from its variables in any order.** Let an environment have every variable once, and no two that spell
the same path. In whatever order it is listed, and whatever the files are and the layers in use, either the same policy loads, with
the same values, the same revision and the same sources, or none does. -/
theorem load_in_any_order (file : String → Stored) (o : Options) (h : env.Unambiguous) (hperm : env.Perm env') :
    (∃ p, load ⟨file, env⟩ o = .ok p ∧ load ⟨file, env'⟩ o = .ok p) ∨
      (∃ e, load ⟨file, env⟩ o = .error e) ∧ ∃ e, load ⟨file, env'⟩ o = .error e := by
  cases hload : load ⟨file, env⟩ o with
  | ok p => exact .inl ⟨p, rfl, load_eq_ok_of_perm h hperm hload⟩
  | error e =>
    cases hload' : load ⟨file, env'⟩ o with
    | ok p =>
      have hback := load_eq_ok_of_perm (h.perm hperm) hperm.symm hload'
      rw [hload] at hback
      cases hback
    | error e' => exact .inr ⟨⟨e, rfl⟩, e', rfl⟩

def limitFile (path : String) : Stored :=
  if path = "p.yaml" then .bytes "hosts:\n  allowed: c.example\ningest:\n  fetch_timeout_ms: 250\n".toUTF8.toList else .missing

/-- variables for two settings, one of them with the value of the file, two that spell no path, a JSON text for the setting of the
other, and an assignment -/
def severalVariables : Environment :=
  [("SEARCHADS_POLICY__INGEST__FETCH_TIMEOUT_MS", "250"), ("SEARCHADS_POLICY__", "true"),
    ("SEARCHADS_POLICY_OVERRIDE_JSON", "\x7b\"hosts\": \x7b\"allowed\": \"b.example\"\x7d\x7d"),
    ("SEARCHADS_POLICY__hosts____Allowed", "A.example"), ("SEARCHADS_POLICY____", ""),
    ("SEARCHADS_POLICY_CLI_OVERRIDES", "ads.enabled=false")]

theorem load_in_any_order_reversed :
    severalVariables.Unambiguous ∧ severalVariables.Perm severalVariables.reverse ∧
      ∃ p, load ⟨limitFile, severalVariables⟩ ⟨["p.yaml"], true, true⟩ = .ok p ∧
        load ⟨limitFile, severalVariables.reverse⟩ ⟨["p.yaml"], true, true⟩ = .ok p ∧
        (p.adsEnabled, p.allowedHosts, p.fetchTimeout) = (false, ["b.example"], 250) ∧
        Setting.all.map (fun s => (p.provenance.find? s.path).map (·.source)) =
          [some .cli, some .builtin, some .env, some .file, some .builtin] := by
  have hclear : severalVariables.Unambiguous := ⟨by decide, by decide +kernel⟩
  have hreversed : severalVariables.Perm severalVariables.reverse := (List.reverse_perm _).symm
  have hfacts : (load ⟨limitFile, severalVariables⟩ ⟨["p.yaml"], true, true⟩).toOption.map (fun p =>
      ((p.adsEnabled, p.allowedHosts, p.fetchTimeout), Setting.all.map fun s => (p.provenance.find? s.path).map (·.source))) =
      some ((false, ["b.example"], 250), [some .cli, some .builtin, some .env, some .file, some .builtin]) := by
    decide +kernel
  refine ⟨hclear, hreversed, ?_⟩
  rcases load_in_any_order limitFile ⟨["p.yaml"], true, true⟩ hclear hreversed with ⟨p, hp, hp'⟩ | ⟨⟨e, he⟩, -⟩
  · rw [hp] at hfacts
    obtain ⟨hvalues, hsources⟩ := Prod.mk.inj (Option.some.inj hfacts)
    exact ⟨p, hp, hp', hvalues, hsources⟩
  · rw [he] at hfacts
    cases hfacts

-- two variables that spell the same path cover each other, so there the order counts
example :
    let env : Environment := [("SEARCHADS_POLICY__ADS__ENABLED", "true"), ("SEARCHADS_POLICY__ads____enabled", "false")]
    (load ⟨fun _ => .missing, env⟩ ⟨[], true, false⟩).toOption.map (·.adsEnabled) = some false ∧
      (load ⟨fun _ => .missing, env.reverse⟩ ⟨[], true, false⟩).toOption.map (·.adsEnabled) = some true := by
  decide +kernel

end Policy

end AdConfirm
