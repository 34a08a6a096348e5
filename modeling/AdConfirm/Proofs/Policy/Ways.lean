import AdConfirm.Proofs.Json.Value
import AdConfirm.Proofs.Policy.Sole
import AdConfirm.Proofs.Policy.Rebuild

/-!
Four ways to set one setting.

A setting can be given a value by a variable that spells its path, by a JSON text with the value under its section and its key,
by an assignment, and by an override. The first three hold the text of the value, which is read again. What it is read as is like
the value, so that a setting reads the same from it. So all four fail, or all succeed with the same values; and no sources differ
but that of the setting, if it has another value than before.

- `read_congr`: a setting reads the same from values that are alike.
- `overlay_variable`, `ofTree?_nest`, `assignments_assign`: what each text stands for.
- `Puts`: what one value for a setting makes of a policy. `puts_layAll`, `puts_of_overridden?`: laid over it, or as an override.
- `Way`, `Way.puts`: the four ways, and what each of them gives.
- `ways_agree`: the four ways agree.
-/

namespace AdConfirm.Policy

open AdConfirm.Json

/-! ## What a setting reads -/

theorem readTimeout_congr {v w : Value} (h : v.asNatural? = w.asNatural?) :
    (readTimeout v).toOption = (readTimeout w).toOption := by
  unfold readTimeout
  rw [h]
  cases w.asNatural? with
  | none => rfl
  | some n => rfl

theorem readHost_congr {v w : Value} (h : v.asText? = w.asText?) : (readHost v).toOption = (readHost w).toOption := by
  unfold readHost
  rw [h]
  cases w.asText? <;> rfl

/-- What a list of hosts is read as comes from its items alone. -/
theorem toOption_readHosts (items : List Value) :
    (readHosts (.array items)).toOption = (items.mapM fun v => (readHost v).toOption).map hostNames := by
  rw [← toOption_mapM, readHosts]
  cases items.mapM readHost <;> rfl

theorem readHosts_congr {vs ws : List Value} (h : List.Forall₂ (fun v w => v.asText? = w.asText?) vs ws) :
    (readHosts (.array vs)).toOption = (readHosts (.array ws)).toOption := by
  rw [toOption_readHosts, toOption_readHosts]
  congr 1
  induction h with
  | nil => rfl
  | cons hitem _ ih => rw [List.mapM_cons, List.mapM_cons, readHost_congr hitem, ih]

/-- **A setting reads the same from values that are alike.** -/
theorem read_congr {v w : Value} (h : v.Alike w) (s : Setting) : (s.read v).toOption = (s.read w).toOption := by
  cases h with
  | null => rfl
  | bool b => rfl
  | text b => rfl
  | object fs gs => cases s <;> rfl
  | array hitems =>
    cases s with
    | allowedHosts => exact readHosts_congr hitems
    | _ => rfl
  | @number n m h =>
    have hnatural : (Value.number n).asNatural? = (Value.number m).asNatural? := by
      have hiff : ∀ (n : Number) k, (Value.number n).asNatural? = some k ↔ n = .natural k := by
        intro n k
        cases n <;> simp [Value.asNatural?]
      exact Option.ext fun k => by rw [hiff, hiff, h]
    cases s with
    | fetchTimeout => exact readTimeout_congr hnatural
    | reportTimeout => exact readTimeout_congr hnatural
    | _ => rfl

/-! ## What each text stands for -/

/-- the variable that sets the setting: its section and its key in capitals -/
def Setting.variableName (s : Setting) : String :=
  variableStart ++ String.ofList (s.names.1.toList.map Char.toUpper) ++ "__" ++ String.ofList (s.names.2.toList.map Char.toUpper)

/-- a value under the section and the key of the setting -/
def Setting.nest (s : Setting) (v : Json.Value) : Json.Value := .object [(s.names.1, .object [(s.names.2, v)])]

def Setting.assign (s : Setting) (text : String) : String := s.path ++ "=" ++ text

theorem readLoose_eq_of_read? {text : String} {x : Value} (h : Value.read? text = some x) : readLoose text = x := by
  have hne : text ≠ "" := by
    rintro rfl
    obtain ⟨t, ht, -⟩ := Option.bind_eq_some_iff.1 h
    exact absurd (not_blank_of_read? ht) (by decide)
  rw [readLoose, if_neg hne, h]

/-- The variable of a setting stands for an overlay of it. -/
theorem overlay_variable (s : Setting) {text : String} {x : Value} (h : Value.read? text = some x) :
    variableOverlay? s.variableName text = some ⟨s.path, x, .env⟩ := by
  have hpath : variablePath? s.variableName = some s.path := by cases s <;> decide +kernel
  rw [variableOverlay?, hpath, readLoose_eq_of_read? h]
  rfl

/-- One value under a section and a key is read as what the value is read as, under both. -/
theorem ofTree?_nest (s : Setting) (v : Value) :
    Value.ofTree? Value.maxDepth (s.nest v).toTree = (Value.ofTree? 125 v.toTree).map s.nest := by
  cases h : Value.ofTree? 125 v.toTree <;>
    simp [Setting.nest, Value.toTree, Value.toFields, Value.ofTree?, Value.maxDepth, h]
  rfl

/-- So its one leaf is laid over the setting. -/
theorem leafOverlays_nest (s : Setting) {w : Value} (hw : ∀ fields, w ≠ .object fields) (source : Source) :
    leafOverlays source (s.nest w) = [⟨s.path, w, source⟩] := by
  have hleaves : w.keyedLeaves = [([], w)] := by
    cases w with
    | object fields => exact absurd rfl (hw fields)
    | _ => rfl
  rw [Setting.nest, leafOverlays_object, ← pathOf_names s]
  simp [Value.keyedLeaves, Value.keyedFieldLeaves, hleaves]

/-- An assignment of a value whose text has no commas stands for one overlay. -/
theorem assignments_assign (s : Setting) {v x : Value} (hcomma : ',' ∉ v.compact.toList) (h : Value.read? v.compact = some x) :
    assignments (s.assign v.compact) = [⟨s.path, x, .cli⟩] := by
  set text := v.toTree.print
  have htext : v.compact = String.ofList text := rfl
  have htrim : Text.trim text = text := v.tight_print.trim_eq
  have hpath : s.path.toList ≠ [] ∧ '=' ∉ s.path.toList ∧ ',' ∉ s.path.toList ∧
      s.path.toList.all (!Text.isBlank ·) = true := by cases s <;> decide +kernel
  obtain ⟨hne, hequals, hnocomma, hblank⟩ := hpath
  have htoken : (s.assign v.compact).toList = s.path.toList ++ '=' :: text := by
    simp [Setting.assign, htext, String.toList_append]
  have hsplit : Text.splitIf (fun c => decide (c = ',')) (s.path.toList ++ '=' :: text) = [s.path.toList ++ '=' :: text] := by
    refine Text.splitIf_eq_singleton fun c hc => decide_eq_false ?_
    rintro rfl
    rw [htext, String.toList_ofList] at hcomma
    simp [hnocomma, hcomma] at hc
  have htight : Text.Tight (s.path.toList ++ '=' :: text) := by
    have hequals : Text.Tight ['='] := Text.tight_of_all rfl
    have happend := ((Text.tight_of_all hblank).append hequals).append v.tight_print
    rwa [List.append_assoc] at happend
  have hassignment : assignment? (s.path.toList ++ '=' :: text) = some ⟨s.path, x, .cli⟩ := by
    simp only [assignment?, htight.trim_eq, Text.cutAt_append hequals, Option.getD_some, (Text.tight_of_all hblank).trim_eq,
      htrim, List.isEmpty_iff, hne, if_false, String.ofList_toList]
    rw [← htext, readLoose_eq_of_read? h]
  rw [assignments, htoken, hsplit]
  simp [hassignment]

/-! ## What each way gives -/

/-- what a value for a setting makes of a policy: nothing if there is none; otherwise the setting has it, and is said to have it
from this source if it is another value than before; all else stays as it is but for the revision -/
def Puts (base : Snapshot) (s : Setting) (source : Source) : Option s.Value → Except PolicyError Snapshot → Prop
  | none, r => ∃ e, r = .error e
  | some x, r => ∃ p, r = .ok p ∧ p.get s = x ∧ (∀ s', s' ≠ s → p.get s' = base.get s') ∧
      p.provenance = if base.get s = x then base.provenance else base.provenance.insert s.path ⟨s.path, source⟩

/-- A value laid over a policy. -/
theorem puts_layAll (p : Snapshot) (s : Setting) (v : Value) (source : Source) :
    Puts p s source (s.read v).toOption (p.layAll [⟨s.path, v, source⟩]) := by
  have hlay : p.layAll [⟨s.path, v, source⟩] = p.lay ⟨s.path, v, source⟩ := bind_pure _
  rw [hlay]
  cases hread : s.read v with
  | error fault => exact ⟨.invalidValue fault, by simp [Snapshot.lay, Setting.ofPath?_path, hread]⟩
  | ok x =>
    have hmerge : p.lay ⟨s.path, v, source⟩ = .ok (p.merge s x source) := Snapshot.lay_eq_ok_iff.2 ⟨s, x, ⟨rfl, hread⟩, rfl⟩
    refine ⟨_, hmerge, p.get_merge s x source, fun s' hs => p.get_merge_of_ne x source hs, ?_⟩
    unfold Snapshot.merge
    split
    · rfl
    · rw [Snapshot.setSource, Snapshot.provenance_put]

/-- the policy in force once an override is applied to a new center, or why it is not applied; none if the call breaks down -/
def Center.overridden? (base : Snapshot) (source : Option Options) (now : Nat) (x : OverrideSpec) :
    Option (Except PolicyError Snapshot) :=
  match (Center.build base source).apply now x with
  | (c, .ok _) => some (.ok c.snapshot)
  | (_, .error (.failed e)) => some (.error e)
  | (_, .error .brokeDown) => none

/-- What a policy is with one override over its base. -/
theorem Overlaid.puts {base p : Snapshot} {s : Setting} {v : Value} {x : s.Value}
    (h : Overlaid base p fun path y => path = s.path ∧ y = v) (hread : s.read v = .ok x) :
    Puts base s .runtimeOverride (some x) (.ok p) := by
  obtain ⟨hget, hsource⟩ := h.covered s v x ⟨rfl, rfl⟩ hread
  have hother : ∀ s', s' ≠ s → p.get s' = base.get s' ∧ p.provenance.find? s'.path = base.provenance.find? s'.path :=
    fun s' hs => h.uncovered s' fun y hy => hs (Setting.path_injective hy.1)
  refine ⟨p, rfl, hget, fun s' hs => (hother s' hs).1, Table.ext_of_find? fun key e => ?_⟩
  by_cases hkey : key = s.path
  · subst hkey
    rw [hsource]
    split <;> simp [Table.find?_insert]
  · have hfind : p.provenance.find? key = base.provenance.find? key := by
      cases hs : Setting.ofPath? key with
      | none => exact h.elsewhere key hs
      | some s' =>
        obtain rfl := Setting.ofPath?_eq_some_iff.1 hs
        exact (hother s' fun heq => hkey (congrArg Setting.path heq)).2
    rw [hfind]
    split <;> simp [Table.find?_insert, Ne.symm hkey]

section Overridden

variable (base : Snapshot) (source : Option Options) {now : Nat} {s : Setting} {v : Value} {owner reason : String} {ttl : UInt64}

theorem overridden?_of_read_error {fault : ValueFault} (hread : s.read v = .error fault) :
    Center.overridden? base source now ⟨s.path, v, owner, reason, ttl⟩ = some (.error (.invalidValue fault)) := by
  have hcheck : Center.check ⟨s.path, v, owner, reason, ttl⟩ = .error (.invalidValue fault) := by
    simp [Center.check, Snapshot.lay, Setting.ofPath?_path, hread, Except.map]
  simp only [Center.overridden?, Center.apply_of_check_error _ now hcheck]

/-- A value that the setting reads, as an override whose end the clock can tell. -/
theorem overridden?_of_fits {x : s.Value} (hread : s.read v = .ok x)
    (hfits : OverrideSpec.Fits ⟨s.path, v, owner, reason, ttl⟩ now) :
    ∃ p, Center.overridden? base source now ⟨s.path, v, owner, reason, ttl⟩ = some (.ok p) ∧
      Puts base s .runtimeOverride (some x) (.ok p) := by
  obtain ⟨o, c, ho, hc, hrebuilt⟩ :=
    Center.apply_eq_of_applies (Center.build_sound base source) ⟨⟨s, x, rfl, hread⟩, hfits⟩
  -- the override is live when it is applied, and nothing else is held
  have hholds : ∀ path y, c.Holds path y ↔ path = s.path ∧ y = v := by
    intro path y
    simp only [Center.Holds, hrebuilt.held, Table.find?_insert, Center.build, Table.find?_empty]
    constructor
    · rintro ⟨o', ⟨ho', -⟩, rfl⟩
      split at ho'
      · next hpath =>
        obtain rfl := Option.some.inj ho'
        exact ⟨hpath.symm, OverrideSpec.value_of_make? ho⟩
      · cases ho'
    · rintro ⟨rfl, rfl⟩
      exact ⟨o, ⟨if_pos rfl, OverrideSpec.isLive_of_make? ho⟩, OverrideSpec.value_of_make? ho⟩
  have hoverlaid : Overlaid base c.snapshot fun path y => path = s.path ∧ y = v :=
    (hrebuilt.base ▸ hrebuilt.sound.overlaid).congr hholds
  exact ⟨c.snapshot, by simp only [Center.overridden?, hc], hoverlaid.puts hread⟩

/-- A value as an override, if the call does not break down. -/
theorem puts_of_overridden? {r : Except PolicyError Snapshot}
    (h : Center.overridden? base source now ⟨s.path, v, owner, reason, ttl⟩ = some r) :
    Puts base s .runtimeOverride (s.read v).toOption r := by
  cases hread : s.read v with
  | error fault =>
    obtain rfl := Option.some.inj (h.symm.trans (overridden?_of_read_error base source hread))
    exact ⟨.invalidValue fault, rfl⟩
  | ok x =>
    by_cases hfits : OverrideSpec.Fits ⟨s.path, v, owner, reason, ttl⟩ now
    · obtain ⟨p, hp, hputs⟩ := overridden?_of_fits base source hread hfits
      obtain rfl := Option.some.inj (h.symm.trans hp)
      exact hputs
    · have hcheck : Center.check ⟨s.path, v, owner, reason, ttl⟩ = .ok () := Center.check_eq_ok_iff.2 ⟨s, x, rfl, hread⟩
      simp only [Center.overridden?, Center.apply_of_not_fits _ hcheck hfits] at h
      cases h

/-- It does not break down if the clock can tell when the override ends. -/
theorem exists_overridden? (hfits : OverrideSpec.Fits ⟨s.path, v, owner, reason, ttl⟩ now) :
    ∃ r, Center.overridden? base source now ⟨s.path, v, owner, reason, ttl⟩ = some r := by
  cases hread : s.read v with
  | error fault => exact ⟨_, overridden?_of_read_error base source hread⟩
  | ok x =>
    obtain ⟨p, hp, -⟩ := overridden?_of_fits base source hread hfits
    exact ⟨_, hp⟩

end Overridden

/-- the ways to set a setting to a value. Three load the text of the value, and nothing else: from the variable of the setting,
from a JSON text under its section and its key, and from an assignment, if the text has no commas. The fourth is an override on a
new center whose base has the built-in values, with their sources recorded as loading records them or not, unless the call breaks
down. Each way comes with the policy it starts from, the source it names, and what it gives -/
inductive Way (s : Setting) (v : Value) : Snapshot → Source → Except PolicyError Snapshot → Prop where
  | «variable» {w : Surroundings} {o : Options} (h : Alone w o [(s.variableName, v.compact)] none none) :
      Way s v Snapshot.start .env (load w o)
  | json {w : Surroundings} {o : Options} (h : Alone w o [] (some (s.nest v).compact) none) :
      Way s v Snapshot.start .env (load w o)
  | assignment {w : Surroundings} {o : Options} (hcomma : ',' ∉ v.compact.toList)
      (h : Alone w o [] none (some (s.assign v.compact))) : Way s v Snapshot.start .cli (load w o)
  | override {base : Snapshot} (hbase : ∀ s', base.get s' = Snapshot.default.get s') (source : Option Options) (now : Nat)
      (owner reason : String) (ttl : UInt64) {r : Except PolicyError Snapshot}
      (h : Center.overridden? base source now ⟨s.path, v, owner, reason, ttl⟩ = some r) :
      Way s v base .runtimeOverride r

/-- both fail, or both succeed with the same values; and no sources differ but that of the setting, if it has not the built-in
value -/
inductive Agree (s : Setting) : Except PolicyError Snapshot → Except PolicyError Snapshot → Prop where
  | fail (e e' : PolicyError) : Agree s (.error e) (.error e')
  | succeed {p q : Snapshot} (values : ∀ s', p.get s' = q.get s')
      (sources : ∀ key, p.provenance.find? key ≠ q.provenance.find? key → key = s.path ∧ p.get s ≠ Snapshot.default.get s) :
      Agree s (.ok p) (.ok q)

theorem Puts.agree {base : Snapshot} {s : Setting} {source source' : Source} {x : Option s.Value}
    {r r' : Except PolicyError Snapshot} (hbase : base.get s = Snapshot.default.get s) (h : Puts base s source x r)
    (h' : Puts base s source' x r') : Agree s r r' := by
  cases x with
  | none =>
    obtain ⟨e, rfl⟩ := h
    obtain ⟨e', rfl⟩ := h'
    exact .fail e e'
  | some x =>
    obtain ⟨p, rfl, hget, hother, hsources⟩ := h
    obtain ⟨q, rfl, hget', hother', hsources'⟩ := h'
    refine .succeed (fun s' => ?_) fun key hne => ?_
    · by_cases hs : s' = s
      · subst hs
        rw [hget, hget']
      · rw [hother s' hs, hother' s' hs]
    · rw [hsources, hsources'] at hne
      by_cases hsame : base.get s = x
      · simp [hsame] at hne
      · refine ⟨?_, fun hdefault => hsame (hbase.trans (hdefault.symm.trans hget))⟩
        by_contra hkey
        simp [hsame, Table.find?_insert, Ne.symm hkey] at hne

section Accepted

variable {s : Setting} {v : Value}

/-- A text that is accepted under the keys of a setting is accepted by itself, and as a value like the one it was written for. -/
theorem exists_alike (hread : (Value.read? (s.nest v).compact).isSome = true) :
    ∃ w, v.Alike w ∧ Value.read? v.compact = some w ∧ Value.read? (s.nest v).compact = some (s.nest w) := by
  obtain ⟨x, hx⟩ := Option.isSome_iff_exists.1 hread
  have hnest := hx
  rw [Value.read?_compact, ofTree?_nest, Option.map_eq_some_iff] at hnest
  obtain ⟨w, hw, rfl⟩ := hnest
  refine ⟨w, Value.alike_of_ofTree? hw, ?_, hx⟩
  rw [Value.read?_compact]
  exact Value.ofTree?_mono (by decide) hw

theorem Way.get_base {base : Snapshot} {source : Source} {r : Except PolicyError Snapshot} (h : Way s v base source r)
    (s' : Setting) : base.get s' = Snapshot.default.get s' := by
  cases h with
  | override hbase => exact hbase s'
  | _ => exact get_start s'

/-- **What each way gives**: the setting has what it reads from the value, if it reads anything. -/
theorem Way.puts (hv : ∀ fields, v ≠ .object fields) (hread : (Value.read? (s.nest v).compact).isSome = true) {base : Snapshot}
    {source : Source} {r : Except PolicyError Snapshot} (h : Way s v base source r) :
    Puts base s source (s.read v).toOption r := by
  obtain ⟨w, halike, hcompact, hnest⟩ := exists_alike hread
  have hw : ∀ fields, w ≠ .object fields := by
    rintro fields rfl
    cases halike with
    | object fs => exact hv fs rfl
  cases h with
  | «variable» halone =>
    rw [halone.load_eq (show TextLayer none [] from rfl), read_congr halike]
    simpa [overlay_variable s hcompact] using puts_layAll Snapshot.start s w .env
  | json halone =>
    rw [halone.load_eq ⟨_, hnest, rfl⟩, leafOverlays_nest s hw, read_congr halike]
    exact puts_layAll Snapshot.start s w .env
  | assignment hcomma halone =>
    rw [halone.load_eq (show TextLayer none [] from rfl), read_congr halike]
    simpa [assignments_assign s hcomma hcompact] using puts_layAll Snapshot.start s w .cli
  | override _ source now owner reason ttl h => exact puts_of_overridden? base source h

end Accepted

/-- **Four ways to set a setting agree.** Let a value be no object, and let its text under the section and the key of a setting
be accepted as JSON. Set by the variable of the setting, by that JSON text, by an assignment or by an override, the setting takes
what it reads from the value, and each way fails if it reads nothing. So over the built-in values, as loading starts from them, all
four fail, or all succeed with the same values; and no sources differ but that of the setting, if its value has changed. An
override gives one or the other whenever the clock can tell when it ends. -/
theorem ways_agree (s : Setting) (v : Value) (hv : ∀ fields, v ≠ .object fields)
    (hread : (Value.read? (s.nest v).compact).isSome = true) :
    (∀ base source r, Way s v base source r → Puts base s source (s.read v).toOption r) ∧
    (∀ base source source' r r', Way s v base source r → Way s v base source' r' → Agree s r r') ∧
    ∀ base source now owner reason ttl, OverrideSpec.Fits ⟨s.path, v, owner, reason, ttl⟩ now →
      ∃ r, Center.overridden? base source now ⟨s.path, v, owner, reason, ttl⟩ = some r := by
  refine ⟨fun base source r h => h.puts hv hread, fun base source source' r r' h h' => ?_,
    fun base source now owner reason ttl => exists_overridden? base source⟩
  exact (h.puts hv hread).agree (h.get_base s) (h'.puts hv hread)

/-- hosts in one text, with an equals sign, quotes, a bar and blanks -/
def quotedHosts : Value := .text " A=\"b\"|C "

theorem ways_agree_quoted :
    let r₁ := load ⟨fun _ => .missing, [("SEARCHADS_POLICY__HOSTS__ALLOWED", quotedHosts.compact)]⟩ ⟨["p.yaml"], true, true⟩
    let r₂ := load ⟨fun _ => .missing, [(jsonVariable, (Setting.allowedHosts.nest quotedHosts).compact)]⟩ ⟨[], true, true⟩
    let r₃ := load ⟨fun _ => .missing, [(assignmentsVariable, "hosts.allowed=" ++ quotedHosts.compact)]⟩ ⟨[], false, true⟩
    (Value.read? (Setting.allowedHosts.nest quotedHosts).compact).isSome = true ∧
      Agree .allowedHosts r₁ r₂ ∧ Agree .allowedHosts r₂ r₃ ∧
      ∃ r₄, Center.overridden? Snapshot.start none 7 ⟨"hosts.allowed", quotedHosts, "ops", "try", 1⟩ = some r₄ ∧
        Agree .allowedHosts r₃ r₄ ∧ ∃ p, r₄ = .ok p ∧ p.allowedHosts = ["a=\"b\"", "c"] := by
  have hread : (Value.read? (Setting.allowedHosts.nest quotedHosts).compact).isSome = true := by decide +kernel
  obtain ⟨hputs, hagree, hgives⟩ := ways_agree .allowedHosts quotedHosts nofun hread
  have h₁ := Way.variable (s := .allowedHosts) (v := quotedHosts)
    (w := ⟨fun _ => .missing, [("SEARCHADS_POLICY__HOSTS__ALLOWED", quotedHosts.compact)]⟩) (o := ⟨["p.yaml"], true, true⟩)
    ⟨fun _ _ => rfl, by decide +kernel, by decide +kernel, by decide +kernel⟩
  have h₂ := Way.json (s := .allowedHosts) (v := quotedHosts) (alone_json [] _)
  have h₃ := Way.assignment (s := .allowedHosts) (v := quotedHosts) (by decide +kernel)
    (w := ⟨fun _ => .missing, [(assignmentsVariable, "hosts.allowed=" ++ quotedHosts.compact)]⟩) (o := ⟨[], false, true⟩)
    ⟨fun _ _ => rfl, by decide +kernel, by decide +kernel, by decide +kernel⟩
  obtain ⟨r₄, hr₄⟩ := hgives Snapshot.start none 7 "ops" "try" 1 (.inr (by decide))
  have h₄ := Way.override (s := .allowedHosts) get_start none 7 "ops" "try" 1 hr₄
  refine ⟨hread, hagree _ _ _ _ _ h₁ h₂, hagree _ _ _ _ _ h₂ h₃, r₄, hr₄, hagree _ _ _ _ _ h₃ h₄, ?_⟩
  have hhosts : (Setting.allowedHosts.read quotedHosts).toOption = some ["a=\"b\"", "c"] := by decide +kernel
  obtain ⟨p, hp, hget, -⟩ := hhosts ▸ hputs _ _ _ h₄
  exact ⟨p, hp, hget⟩

end AdConfirm.Policy
