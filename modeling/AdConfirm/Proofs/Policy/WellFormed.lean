import AdConfirm.Proofs.Policy.Layers
import AdConfirm.Proofs.Policy.Live
import AdConfirm.Proofs.Text

/-!
Policies are well formed.

Whatever a setting reads it may hold: time limits are positive, and hosts are trimmed, lowered and not empty. The built-in values
are of this kind too, and sources are only ever recorded under the path of a setting. So every policy that loads is well formed,
and so is everything that a center on it ever holds or publishes.

- `Listed`: hosts as a policy lists them. `listed_of_mem_hostNames`: whatever is listed is listed so.
- `Setting.Allows`: the values that a setting may hold. `allows_of_read`: it reads no others.
- `Laid.wellFormed`, `Overlaid.wellFormed`: what is laid over well-formed values is well formed.
- `policies_wellFormed`: every policy loaded, held or published, over every run.
-/

namespace AdConfirm.Policy

/-- a host as a policy lists it: not empty, no white space at either end, no ASCII capital -/
structure Listed (host : String) : Prop where
  nonempty : host ≠ ""
  first : ∀ c, host.toList.head? = some c → Text.isBlank c = false
  last : ∀ c, host.toList.getLast? = some c → Text.isBlank c = false
  lowered : ∀ c ∈ host.toList, ¬ ('A' ≤ c ∧ c ≤ 'Z')

/-- a time limit that a policy may set, in milliseconds -/
def IsLimit (n : UInt64) : Prop := 1 ≤ n.toNat ∧ n.toNat ≤ 2 ^ 64 - 1

/-- the values that a setting may hold -/
def Setting.Allows : (s : Setting) → s.Value → Prop
  | .adsEnabled, _ => True
  | .confirmationEvents, _ => True
  | .allowedHosts, hosts => ∀ host ∈ hosts, Listed host
  | .fetchTimeout, n => IsLimit n
  | .reportTimeout, n => IsLimit n

/-- the policy is well formed: its limits are positive, its hosts are listed as hosts are, and its table of sources has exactly
the paths of the five settings for its keys, each with an entry of its own -/
structure Snapshot.WellFormed (p : Snapshot) : Prop where
  fetchTimeout : 1 ≤ p.fetchTimeout.toNat ∧ p.fetchTimeout.toNat ≤ 2 ^ 64 - 1
  reportTimeout : 1 ≤ p.reportTimeout.toNat ∧ p.reportTimeout.toNat ≤ 2 ^ 64 - 1
  hosts : ∀ host ∈ p.allowedHosts, Listed host
  keys : p.provenance.keys.Perm (Setting.all.map Setting.path)
  own : ∀ key e, p.provenance.find? key = some e → e.path = key

/-! ## Values that a setting reads -/

/-- A host that is trimmed and lowered and not empty is one that may be listed. -/
theorem listed_hostName {s : List Char} (h : hostName s ≠ "") : Listed (hostName s) := by
  have hchars : (hostName s).toList = (Text.trim s).map Text.lowerChar := String.toList_ofList
  refine ⟨h, fun c hc => ?_, fun c hc => ?_, fun c hc => ?_⟩
  · rw [hchars, List.head?_map, Option.map_eq_some_iff] at hc
    obtain ⟨d, hd, rfl⟩ := hc
    rw [Text.isBlank_lowerChar]
    exact Text.head?_trimIf hd
  · rw [hchars, List.getLast?_map, Option.map_eq_some_iff] at hc
    obtain ⟨d, hd, rfl⟩ := hc
    rw [Text.isBlank_lowerChar]
    exact Text.getLast?_trimIf hd
  · rw [hchars, List.mem_map] at hc
    obtain ⟨d, -, rfl⟩ := hc
    exact Text.not_capital_lowerChar d

theorem listed_of_mem_hostNames {hosts : List (List Char)} {host : String} (h : host ∈ hostNames hosts) : Listed host := by
  obtain ⟨hmem, hne⟩ := List.mem_filter.1 h
  obtain ⟨s, -, rfl⟩ := List.mem_map.1 hmem
  exact listed_hostName (by simpa using hne)

theorem isLimit_of_ne_zero {n : UInt64} (h : n ≠ 0) : IsLimit n := by
  have hlt : n.toNat < 2 ^ 64 := n.toNat_lt
  have hpos : n.toNat ≠ 0 := fun hzero => h (UInt64.toNat_inj.1 hzero)
  exact ⟨by omega, by omega⟩

theorem isLimit_of_readTimeout {x : Json.Value} {n : UInt64} (h : readTimeout x = .ok n) : IsLimit n := by
  unfold readTimeout at h
  split at h
  · split at h
    · cases h
    · next hne =>
      obtain rfl := Except.ok.inj h
      exact isLimit_of_ne_zero hne
  · cases h

/-- An array of texts is read as the hosts in it. -/
theorem readHosts_texts (items : List String) :
    readHosts (.array (items.map .text)) = .ok (hostNames (items.map String.toList)) := by
  have hread : (items.map Json.Value.text).mapM readHost = .ok (items.map String.toList) := by
    induction items with
    | nil => rfl
    | cons item items ih =>
      rw [List.map_cons, List.mapM_cons, ih]
      rfl
  rw [readHosts, hread]
  rfl

theorem listed_of_readHosts {x : Json.Value} {hosts : List String} (h : readHosts x = .ok hosts) :
    ∀ host ∈ hosts, Listed host := by
  cases x with
  | array items =>
    rw [readHosts] at h
    cases hread : items.mapM readHost with
    | error e =>
      rw [hread] at h
      cases h
    | ok read =>
      rw [hread] at h
      obtain rfl := Except.ok.inj h
      exact fun host => listed_of_mem_hostNames
  | text s =>
    obtain rfl := Except.ok.inj h
    exact fun host => listed_of_mem_hostNames
  | null =>
    obtain rfl := Except.ok.inj h
    simp
  | bool b => cases h
  | number n => cases h
  | object fields => cases h

/-- A setting reads only values that it may hold. -/
theorem allows_of_read {s : Setting} {x : Json.Value} {v : s.Value} (h : s.read x = .ok v) : s.Allows v := by
  cases s with
  | adsEnabled => trivial
  | confirmationEvents => trivial
  | allowedHosts => exact listed_of_readHosts h
  | fetchTimeout => exact isLimit_of_readTimeout h
  | reportTimeout => exact isLimit_of_readTimeout h

/-- The built-in values may be held. -/
theorem allows_default (s : Setting) : s.Allows (Snapshot.default.get s) := by
  cases s with
  | adsEnabled => trivial
  | confirmationEvents => trivial
  | allowedHosts =>
    -- the built-in hosts are listed as if they had been read
    have hread : hostNames (Snapshot.defaultHosts.map String.toList) = Snapshot.defaultHosts := by decide +kernel
    intro host hhost
    have hmem : host ∈ hostNames (Snapshot.defaultHosts.map String.toList) := by rwa [hread]
    exact listed_of_mem_hostNames hmem
  | fetchTimeout => exact isLimit_of_ne_zero (by decide)
  | reportTimeout => exact isLimit_of_ne_zero (by decide)

/-! ## Policies -/

/-- A policy is well formed if every setting may hold its value, and its sources are recorded under the paths of settings. -/
theorem Snapshot.wellFormed_iff {p : Snapshot} :
    p.WellFormed ↔ (∀ s : Setting, s.Allows (p.get s)) ∧ (∀ key, key ∈ p.provenance.keys ↔ ∃ s : Setting, key = s.path) ∧
      ∀ key e, p.provenance.find? key = some e → e.path = key := by
  have hpaths : ∀ key, key ∈ Setting.all.map Setting.path ↔ ∃ s : Setting, key = s.path := by
    intro key
    have hall : ∀ s : Setting, s ∈ Setting.all := fun s => by cases s <;> simp [Setting.all]
    simp [hall, eq_comm]
  have hkeys : p.provenance.keys.Perm (Setting.all.map Setting.path) ↔
      ∀ key, key ∈ p.provenance.keys ↔ ∃ s : Setting, key = s.path := by
    rw [List.perm_ext_iff_of_nodup p.provenance.nodup_keys (by decide)]
    simp only [hpaths]
  constructor
  · rintro ⟨hfetch, hreport, hhosts, hperm, hown⟩
    refine ⟨fun s => ?_, hkeys.1 hperm, hown⟩
    cases s with
    | adsEnabled => trivial
    | confirmationEvents => trivial
    | allowedHosts => exact hhosts
    | fetchTimeout => exact hfetch
    | reportTimeout => exact hreport
  · rintro ⟨hvalues, hmem, hown⟩
    exact ⟨hvalues .fetchTimeout, hvalues .reportTimeout, hvalues .allowedHosts, hkeys.2 hmem, hown⟩

/-- What overlays leave over the built-in values is well formed. -/
theorem Laid.wellFormed {os : List Overlay} {p : Snapshot} (h : Laid os p) : p.WellFormed := by
  refine Snapshot.wellFormed_iff.2 ⟨fun s => ?_, h.keys, h.own⟩
  have hforce : InForce s os (p.get s) := (h.value s (p.get s)).2 rfl
  rcases hforce with hsince | ⟨hdefault, -⟩
  · obtain ⟨before, o, after, -, hsets, -⟩ := hsince
    exact allows_of_read hsets.2
  · exact hdefault ▸ allows_default s

/-- A policy that loads is well formed. -/
theorem wellFormed_of_load {w : Surroundings} {o : Options} {p : Snapshot} (h : load w o = .ok p) : p.WellFormed := by
  obtain ⟨os, -, hlay⟩ := layers_of_load h
  exact (laid_of_layAll hlay).wellFormed

/-- Over a well-formed base, a setting has a value that it allows, from an override or from the base, and an entry of its own. -/
theorem Overlaid.setting {base p : Snapshot} {cover : String → Json.Value → Prop} (h : Overlaid base p cover)
    (hbase : base.WellFormed) (s : Setting) :
    s.Allows (p.get s) ∧ ∃ source, p.provenance.find? s.path = some ⟨s.path, source⟩ := by
  obtain ⟨hvalues, hkeys, hown⟩ := Snapshot.wellFormed_iff.1 hbase
  obtain ⟨e, he⟩ := Table.mem_keys_iff.1 ((hkeys s.path).2 ⟨s, rfl⟩)
  have hentry : base.provenance.find? s.path = some ⟨s.path, e.source⟩ := by
    rw [he]
    exact congrArg (fun path => some (Provenance.mk path e.source)) (hown s.path e he)
  by_cases hcover : ∃ x, cover s.path x
  · obtain ⟨x, hx⟩ := hcover
    obtain ⟨s', v, hpath, hv⟩ := h.readable s.path x hx
    obtain rfl := Setting.path_injective hpath
    obtain ⟨hget, hsource⟩ := h.covered s x v hx hv
    refine ⟨hget ▸ allows_of_read hv, ?_⟩
    rw [hsource]
    split
    · exact ⟨_, hentry⟩
    · exact ⟨_, rfl⟩
  · obtain ⟨hget, hsource⟩ := h.uncovered s fun x hx => hcover ⟨x, hx⟩
    exact ⟨hget ▸ hvalues s, _, hsource ▸ hentry⟩

/-- Overrides over a well-formed base leave a well-formed policy. -/
theorem Overlaid.wellFormed {base p : Snapshot} {cover : String → Json.Value → Prop} (h : Overlaid base p cover)
    (hbase : base.WellFormed) : p.WellFormed := by
  obtain ⟨-, hkeys, hown⟩ := Snapshot.wellFormed_iff.1 hbase
  have hsetting := h.setting hbase
  refine Snapshot.wellFormed_iff.2 ⟨fun s => (hsetting s).1, fun key => ?_, fun key e he => ?_⟩
  · constructor
    · intro hkey
      by_contra hnone
      have hoff : Setting.ofPath? key = none := by
        refine Option.eq_none_iff_forall_not_mem.2 fun s hs => hnone ⟨s, Setting.ofPath?_eq_some_iff.1 hs⟩
      obtain ⟨e, he⟩ := Table.mem_keys_iff.1 hkey
      rw [h.elsewhere key hoff] at he
      exact hnone ((hkeys key).1 (Table.mem_keys_iff.2 ⟨e, he⟩))
    · rintro ⟨s, rfl⟩
      obtain ⟨source, hsource⟩ := (hsetting s).2
      exact Table.mem_keys_iff.2 ⟨_, hsource⟩
  · cases hs : Setting.ofPath? key with
    | none => exact hown key e (h.elsewhere key hs ▸ he)
    | some s =>
      obtain rfl := Setting.ofPath?_eq_some_iff.1 hs
      obtain ⟨source, hsource⟩ := (hsetting s).2
      obtain rfl := Option.some.inj (he.symm.trans hsource)
      rfl

/-! ## Centers -/

section History

variable (base : Snapshot) (source : Option Options) (w : Surroundings)

/-- The base of a center is well formed if the first one was, however often it is loaded anew. -/
theorem after_base_wellFormed (h : base.WellFormed) (acts : List Act) :
    (after base source w acts).center.base.WellFormed := by
  have hbase : IsBase base source w acts (after base source w acts).center.base := (isBase_iff base source w).2 rfl
  rcases hbase with hsince | ⟨hfirst, -⟩
  · obtain ⟨before, a, later, -, ⟨-, -, x, -, hload⟩, -⟩ := hsince
    exact wellFormed_of_load hload
  · rw [hfirst]
    exact h

/-- So is the policy in force, and so is what is watched. -/
theorem after_wellFormed (h : base.WellFormed) (acts : List Act) :
    (after base source w acts).center.snapshot.WellFormed ∧ (after base source w acts).center.watched.WellFormed := by
  have hsound := (after_inv base source w acts).sound
  have hsnapshot := hsound.overlaid.wellFormed (after_base_wellFormed base source w h acts)
  exact ⟨hsnapshot, hsound.watched ▸ hsnapshot⟩

end History

/-- **Policies are well formed.** A policy that loads is well formed, whatever its files, its environment and its assignments
say. And so are, for every center that is built from options, its base, its policy and what it has published last: at the
beginning, and after every act of every run, whatever is applied, taken back, loaded anew from whatever surroundings, and expires.
As an act publishes once at most, that is everything ever published. -/
theorem policies_wellFormed (w : Surroundings) (o : Options) :
    (∀ p, load w o = .ok p → p.WellFormed) ∧
    ∀ c, Center.ofOptions w o = .ok c → ∀ w',
      (∀ ops, ∃ acts, (Machine.ofCenter c w').run ops = (Machine.ofCenter c w').play acts ∧
        acts.filterMap Act.command? = ops.filterMap Op.command?) ∧
      ∀ acts, let m := (Machine.ofCenter c w').play acts
        m.center.base.WellFormed ∧ m.center.snapshot.WellFormed ∧ m.center.watched.WellFormed := by
  refine ⟨fun p hp => wellFormed_of_load hp, fun c hc w' => ⟨Machine.run_eq_play _, fun acts => ?_⟩⟩
  unfold Center.ofOptions at hc
  cases hload : load w o with
  | error e =>
    rw [hload] at hc
    cases hc
  | ok p =>
    rw [hload] at hc
    obtain rfl := Except.ok.inj hc
    have hp := wellFormed_of_load hload
    exact ⟨after_base_wellFormed p (some o) w' hp acts, after_wellFormed p (some o) w' hp acts⟩

/-- hosts in capitals with blanks around them, a limit, and then an override that expires and a file that has come up -/
def untidyHosts : Surroundings :=
  ⟨fun _ => .missing, [("SEARCHADS_POLICY__HOSTS__ALLOWED", " A.Example |, b.EXAMPLE"),
    ("SEARCHADS_POLICY_CLI_OVERRIDES", "ingest.fetch_timeout_ms=1")]⟩

def overriddenThenReloaded : List Act :=
  [.command (.apply ⟨"hosts.allowed", .array [.text " C.Example ", .text " "], "ops", "move", 1⟩),
    .beat .turn, .beat (.moveTo 1000),
    .command (.surround ⟨fun _ => .bytes "hosts:\n  allowed: D.example|\n".toUTF8.toList, []⟩), .command .reload]

theorem policies_wellFormed_untidy :
    ∃ c, Center.ofOptions untidyHosts ⟨["p.yaml"], true, true⟩ = .ok c ∧ c.snapshot.allowedHosts = ["a.example", "b.example"] ∧
      c.snapshot.WellFormed ∧
      let m := (Machine.ofCenter c untidyHosts).play (overriddenThenReloaded.take 1)
      let m' := (Machine.ofCenter c untidyHosts).play overriddenThenReloaded
      m.center.snapshot.allowedHosts = ["c.example"] ∧ m.center.watched.WellFormed ∧
      m'.center.snapshot.allowedHosts = ["d.example"] ∧ m'.center.watched.WellFormed := by
  have hfacts : (Center.ofOptions untidyHosts ⟨["p.yaml"], true, true⟩).toOption.map (fun c =>
      (c.snapshot.allowedHosts,
        ((Machine.ofCenter c untidyHosts).play (overriddenThenReloaded.take 1)).center.snapshot.allowedHosts,
        ((Machine.ofCenter c untidyHosts).play overriddenThenReloaded).center.snapshot.allowedHosts)) =
      some (["a.example", "b.example"], ["c.example"], ["d.example"]) := by decide +kernel
  cases hc : Center.ofOptions untidyHosts ⟨["p.yaml"], true, true⟩ with
  | error e =>
    rw [hc] at hfacts
    cases hfacts
  | ok c =>
    rw [hc] at hfacts
    obtain ⟨hfirst, hrest⟩ := Prod.mk.inj (Option.some.inj hfacts)
    obtain ⟨happlied, hreloaded⟩ := Prod.mk.inj hrest
    obtain ⟨-, hwell⟩ := (policies_wellFormed untidyHosts ⟨["p.yaml"], true, true⟩).2 c hc untidyHosts
    exact ⟨c, rfl, hfirst, (hwell []).2.1, happlied, (hwell _).2.2, hreloaded, (hwell _).2.2⟩

end AdConfirm.Policy
