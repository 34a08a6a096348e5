import AdConfirm.Policy.Codec
import AdConfirm.Proofs.Policy.Sole
import AdConfirm.Proofs.Policy.WellFormed

/-!
A policy is restored from the text of its sections.

The sections of a policy are an object with one object for each setting. As a JSON text in the environment this has one leaf for
each setting, under its path and with its value; and a setting reads its value back from what it was written as, since limits are
positive and hosts are trimmed and lowered already. So loading that text alone gives the values of the policy, in whatever order
the sections are written.

- `Setting.write`, `read_write`: the value that a setting is written as, and that it is read back.
- `Snapshot.sections`: the sections of a policy. `textLayer_sections`: the overlays that their text stands for.
- `Snapshot.Restores`: what loading the sections of a policy gives. `WellFormed.restores`: it holds of well-formed policies.
- `policies_restore`: so it holds of every policy that is loaded or published.
-/

namespace AdConfirm

open AdConfirm.Json

namespace Policy

/-! ## Values written and read -/

/-- A host that is listed is what is listed for it. -/
theorem hostName_of_listed {host : String} (h : Listed host) : hostName host.toList = host := by
  have htight : Text.Tight host.toList := ⟨h.first, h.last⟩
  rw [hostName, htight.trim_eq, Text.lower_eq_self h.lowered, String.ofList_toList]

/-- the JSON value that a setting is written as -/
def Setting.write : (s : Setting) → s.Value → Json.Value
  | .adsEnabled, b => .bool b
  | .confirmationEvents, b => .bool b
  | .allowedHosts, hosts => .array (hosts.map .text)
  | .fetchTimeout, n => .number (.natural n)
  | .reportTimeout, n => .number (.natural n)

theorem ofTree?_ofNat (depth : Nat) (n : UInt64) : Value.ofTree? depth (.ofNat n.toNat) = some (.number (.natural n)) := by
  rw [Tree.ofNat, Value.ofTree?, ofText?_toDigits n.toNat n.toNat_lt, UInt64.ofNat_toNat]
  rfl

/-- The tree of a value stands for what it is written as. -/
theorem ofTree?_tree (depth : Nat) (s : Setting) (v : s.Value) : Value.ofTree? (depth + 1) (s.tree v) = some (s.write v) := by
  cases s with
  | adsEnabled => rfl
  | confirmationEvents => rfl
  | allowedHosts =>
    have hitems : (v.map Tree.ofString).mapM (Value.ofTree? depth) = some (v.map .text) :=
      mapM_map_eq_some fun host _ => by rw [Tree.ofString, Value.ofTree?]; rfl
    rw [Setting.tree, Value.ofTree?, hitems]
    rfl
  | fetchTimeout => exact ofTree?_ofNat _ v
  | reportTimeout => exact ofTree?_ofNat _ v

theorem legible_tree (s : Setting) (v : s.Value) : Legible (s.tree v) := by
  cases s with
  | adsEnabled => exact .bool v
  | confirmationEvents => exact .bool v
  | allowedHosts => exact legible_map .text v
  | fetchTimeout => exact .number (numeral_toDigits _)
  | reportTimeout => exact .number (numeral_toDigits _)

theorem readTimeout_write {n : UInt64} (h : IsLimit n) : readTimeout (.number (.natural n)) = .ok n := by
  have hne : n ≠ 0 := by
    rintro rfl
    exact absurd h.1 (by decide)
  simp [readTimeout, Value.asNatural?, hne]

theorem readHosts_write {hosts : List String} (h : ∀ host ∈ hosts, Listed host) :
    readHosts (.array (hosts.map .text)) = .ok hosts := by
  have hnames : (hosts.map String.toList).map hostName = hosts := by
    rw [List.map_map]
    exact (List.map_congr_left fun host hhost => hostName_of_listed (h host hhost)).trans (List.map_id hosts)
  have hkept : hosts.filter (fun host => decide (host ≠ "")) = hosts :=
    List.filter_eq_self.2 fun host hhost => by simpa using (h host hhost).nonempty
  rw [readHosts_texts, hostNames, hnames, hkept]

/-- **A setting reads its value back** from what it is written as, if it may hold it. -/
theorem read_write {s : Setting} {v : s.Value} (h : s.Allows v) : s.read (s.write v) = .ok v := by
  cases s with
  | adsEnabled => rfl
  | confirmationEvents => rfl
  | allowedHosts => exact readHosts_write h
  | fetchTimeout => exact readTimeout_write h
  | reportTimeout => exact readTimeout_write h

/-! ## Sections -/

/-- the sections of a policy, in any order -/
def Snapshot.sections (p : Snapshot) (order : List Setting) : Tree := .ofFields (order.map p.sectionTree)

theorem legible_sections (p : Snapshot) (order : List Setting) : Legible (p.sections order) := by
  refine legible_ofFields fun f hf => ?_
  obtain ⟨s, -, rfl⟩ := List.mem_map.1 hf
  refine legible_ofFields fun g hg => ?_
  rw [List.mem_singleton.1 hg]
  exact legible_tree s (p.get s)

def Snapshot.sectionValue (p : Snapshot) (s : Setting) : String × Value := (s.names.1, .object [(s.names.2, s.write (p.get s))])

def Snapshot.sectionOverlay (p : Snapshot) (s : Setting) : Overlay := ⟨s.path, s.write (p.get s), .env⟩

theorem ofTree?_sections (p : Snapshot) (order : List Setting) :
    Value.ofTree? Value.maxDepth (p.sections order) = some (.object (Table.ofList (order.map p.sectionValue)).entries) := by
  have hsection : ∀ s : Setting, Value.ofTree? 126 (p.sectionTree s).2 = some (p.sectionValue s).2 := by
    intro s
    simp only [Snapshot.sectionTree, Tree.ofFields, Value.ofTree?, List.map_cons, List.map_nil, List.mapM_cons, List.mapM_nil,
      ofTree?_tree]
    rfl
  have hfields : ((order.map p.sectionTree).map fun f => ((some f.1, f.2) : Written × Tree)).mapM
      (fun f => do return (← f.1, ← Value.ofTree? 126 f.2)) = some (order.map p.sectionValue) := by
    rw [List.map_map]
    refine mapM_map_eq_some fun s _ => ?_
    simp only [Function.comp_apply, hsection s]
    rfl
  rw [Snapshot.sections, Tree.ofFields, Value.maxDepth, Value.ofTree?, hfields]
  rfl

/-- The text of the sections has one overlay for each setting, with the value that the setting has. -/
theorem textLayer_sections {p : Snapshot} {order : List Setting} (horder : order.Perm Setting.all) {text : String}
    (htext : Tree.read? text.toList = some (p.sections order)) :
    ∃ os, TextLayer (some text) os ∧ os.Perm (Setting.all.map p.sectionOverlay) := by
  have hread : Value.read? text = some (.object (Table.ofList (order.map p.sectionValue)).entries) := by
    rw [Value.read?, htext]
    exact ofTree?_sections p order
  refine ⟨_, ⟨_, hread, rfl⟩, ?_⟩
  have hsection : ∀ s : Setting, ((p.sectionValue s).2.keyedLeaves.map fun l =>
      (⟨pathOf ((p.sectionValue s).1 :: l.1), l.2, .env⟩ : Overlay)) = [p.sectionOverlay s] := by
    intro s
    rw [Snapshot.sectionOverlay, ← pathOf_names s]
    cases s <;> rfl
  have hkeys : ((order.map p.sectionValue).map (·.1)).Nodup := by
    have hperm := horder.map fun s : Setting => s.names.1
    rw [List.map_map]
    exact hperm.nodup_iff.2 (by decide)
  have hsections : (order.map p.sectionValue).flatMap (fun f =>
      f.2.keyedLeaves.map fun l => (⟨pathOf (f.1 :: l.1), l.2, .env⟩ : Overlay)) = order.map p.sectionOverlay := by
    rw [List.flatMap_map, List.map_eq_flatMap]
    exact congrArg (order.flatMap ·) (funext hsection)
  rw [leafOverlays_object]
  exact ((Table.perm_entries_ofList hkeys).flatMap_right _).trans (hsections ▸ horder.map _)

/-! ## Policies -/

/-- the policy is restored from its sections: in whatever order they are written as an object, the compact text of that is read as
the object; and every text that is, with nothing else to load from, loads as a policy with the same values, said to come from the
environment where they are not the built-in ones, and to be built in where they are -/
def Snapshot.Restores (p : Snapshot) : Prop :=
  ∀ order, order.Perm Setting.all →
    Tree.read? (p.sections order).compact.toList = some (p.sections order) ∧
    ∀ text, Tree.read? text.toList = some (p.sections order) → ∀ w o, Alone w o [] (some text) none →
      ∃ q, load w o = .ok q ∧ (∀ s, q.get s = p.get s) ∧
        ∀ key, q.provenance.find? key = (Setting.ofPath? key).map fun s =>
          ⟨s.path, if p.get s = Snapshot.default.get s then .builtin else .env⟩

/-- **A well-formed policy is restored from its sections.** -/
theorem Snapshot.WellFormed.restores {p : Snapshot} (h : p.WellFormed) : p.Restores := by
  obtain ⟨hallows, -, -⟩ := Snapshot.wellFormed_iff.1 h
  intro order horder
  refine ⟨?_, fun text htext w o halone => ?_⟩
  · rw [Tree.compact, String.toList_ofList]
    exact read?_print (legible_sections p order)
  obtain ⟨os, hos, hperm⟩ := textLayer_sections horder htext
  have hpaths : (os.map (·.path)).Perm (Setting.all.map Setting.path) := by
    have hmap := hperm.map (·.path)
    rwa [List.map_map] at hmap
  have hsets : ∀ x ∈ os, x.source = .env ∧ ∃ s, Sets s (p.get s) x := by
    intro x hx
    obtain ⟨s, -, rfl⟩ := List.mem_map.1 (hperm.mem_iff.1 hx)
    exact ⟨rfl, s, rfl, read_write (hallows s)⟩
  obtain ⟨q, hq, hget, hfind⟩ := layAll_each (hpaths.nodup_iff.2 (by decide)) hsets Snapshot.start
  have hevery : ∀ s : Setting, s.path ∈ os.map (·.path) := by
    intro s
    refine hpaths.mem_iff.2 (List.mem_map.2 ⟨s, ?_, rfl⟩)
    cases s <;> simp [Setting.all]
  refine ⟨q, ?_, fun s => by rw [hget, if_pos (hevery s)], fun key => ?_⟩
  · rw [halone.load_eq hos]
    simpa using hq
  · rw [hfind]
    cases hs : Setting.ofPath? key with
    | none => simp [find?_start, hs]
    | some s =>
      obtain rfl := Setting.ofPath?_eq_some_iff.1 hs
      by_cases hsame : p.get s = Snapshot.default.get s
      · simp [find?_start, hs, get_start, hsame]
      · simp [hevery s, get_start, hsame, Ne.symm hsame]

/-- **Policies are restored from their sections.** Every policy that loads is restored, whatever it was loaded from. So are, for
every center that is built from options, the policy that it holds and the one that it has published last: at the beginning, and
after every act of every run. As an act publishes once at most, that is everything ever published. -/
theorem policies_restore (w : Surroundings) (o : Options) :
    (∀ p, load w o = .ok p → p.Restores) ∧
    ∀ c, Center.ofOptions w o = .ok c → ∀ w',
      (∀ ops, ∃ acts, (Machine.ofCenter c w').run ops = (Machine.ofCenter c w').play acts ∧
        acts.filterMap Act.command? = ops.filterMap Op.command?) ∧
      ∀ acts, let m := (Machine.ofCenter c w').play acts
        m.center.snapshot.Restores ∧ m.center.watched.Restores := by
  refine ⟨fun p hp => (wellFormed_of_load hp).restores, fun c hc w' => ⟨Machine.run_eq_play _, fun acts => ?_⟩⟩
  obtain ⟨p, hload, rfl⟩ := Center.ofOptions_eq_ok_iff.1 hc
  obtain ⟨hsnapshot, hwatched⟩ := after_wellFormed p (some o) w' (wellFormed_of_load hload) acts
  exact ⟨hsnapshot.restores, hwatched.restores⟩

/-- the sections of the policy that an override has left, the last one first -/
theorem policies_restore_untidy :
    ∃ c, Center.ofOptions untidyHosts ⟨["p.yaml"], true, true⟩ = .ok c ∧
      let p := ((Machine.ofCenter c untidyHosts).play (overriddenThenReloaded.take 1)).center.watched
      ∃ q, load ⟨fun _ => .missing, [(jsonVariable, (p.sections Setting.all.reverse).compact)]⟩ ⟨["p.yaml"], true, true⟩ = .ok q ∧
        q.allowedHosts = ["c.example"] ∧ q.fetchTimeout = 1 ∧
        Setting.all.map (fun s => (q.provenance.find? s.path).map (·.source)) =
          [some .builtin, some .builtin, some .env, some .env, some .builtin] := by
  have hfacts : (Center.ofOptions untidyHosts ⟨["p.yaml"], true, true⟩).toOption.map (fun c =>
      let p := ((Machine.ofCenter c untidyHosts).play (overriddenThenReloaded.take 1)).center.watched
      ((p.allowedHosts, p.fetchTimeout), Setting.all.map fun s => decide (p.get s = Snapshot.default.get s))) =
      some ((["c.example"], 1), [true, true, false, false, true]) := by decide +kernel
  cases hc : Center.ofOptions untidyHosts ⟨["p.yaml"], true, true⟩ with
  | error e =>
    rw [hc] at hfacts
    cases hfacts
  | ok c =>
    rw [hc] at hfacts
    obtain ⟨hvalues, hsame⟩ := Prod.mk.inj (Option.some.inj hfacts)
    obtain ⟨hhosts, hlimit⟩ := Prod.mk.inj hvalues
    obtain ⟨-, hrestores⟩ := (policies_restore untidyHosts ⟨["p.yaml"], true, true⟩).2 c hc untidyHosts
    obtain ⟨hread, hload⟩ := (hrestores (overriddenThenReloaded.take 1)).2 Setting.all.reverse (List.reverse_perm _)
    obtain ⟨q, hq, hget, hfind⟩ := hload _ hread _ _ (alone_json ["p.yaml"] _)
    refine ⟨c, rfl, q, hq, (hget .allowedHosts).trans hhosts, (hget .fetchTimeout).trans hlimit, ?_⟩
    simp only [Setting.all, List.map_cons, List.map_nil, List.cons.injEq, decide_eq_true_eq, decide_eq_false_iff_not,
      and_true] at hsame ⊢
    obtain ⟨hads, hevents, hallowed, hfetch, hreport⟩ := hsame
    simp [hfind, Setting.ofPath?_path, hads, hevents, hallowed, hfetch, hreport]

end Policy

end AdConfirm
