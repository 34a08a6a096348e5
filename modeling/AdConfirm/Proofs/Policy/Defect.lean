import AdConfirm.Proofs.Policy.Failure
import AdConfirm.Proofs.Policy.Layers

/-!
Why a policy does not load.

Loading goes through the files one after the other: each is read, its document is made out, and its overlays are laid. Then the
JSON text in the environment is made out, the overlays of the variables are laid, and those of the JSON text behind them; then
the assignments. An overlay can be laid or not whatever lies below, so a policy loads exactly if all of this is in good order,
and else fails for the first thing that is not.

- `Setting.Refuses`, `Overlay.Defect`, `FileDefect`, `LoadDefect`: the defects, from the inside out.
- `Loadable`: a policy without any of them.
- `read_eq_error_iff`, `lay_eq_error_iff`: what is wrong with a value, and with an overlay.
- `layAll_isOk_iff`, `layAll_eq_error_iff`: overlays one after the other.
- `load_succeeds_or_names_first_defect`: which policies load, and what the others fail for.
-/

namespace AdConfirm

namespace Policy

/-! ## The defects -/

/-- what is wrong with the value of a switch -/
def SwitchRefuses (x : Json.Value) (fault : ValueFault) : Prop := (∀ b, x ≠ .bool b) ∧ fault = .notBool x

def LimitRefuses (x : Json.Value) (fault : ValueFault) : Prop :=
  x = .number (.natural 0) ∧ fault = .notPositive ∨ (∀ n, x ≠ .number (.natural n)) ∧ fault = .notInteger x

/-- what is wrong with a list of hosts: its first item that is no text, or its form -/
inductive HostsRefuse : Json.Value → ValueFault → Prop where
  | item {before after : List Json.Value} {i : Json.Value} (hbefore : ∀ j ∈ before, ∃ s, j = .text s)
      (h : ∀ s, i ≠ .text s) : HostsRefuse (.array (before ++ i :: after)) (.notHost i)
  | form {x : Json.Value} (hnull : x ≠ .null) (htext : ∀ s, x ≠ .text s) (harray : ∀ items, x ≠ .array items) :
      HostsRefuse x (.notHostList x)

/-- what is wrong with a value that the setting does not take -/
def Setting.Refuses : Setting → Json.Value → ValueFault → Prop
  | .adsEnabled => SwitchRefuses
  | .confirmationEvents => SwitchRefuses
  | .allowedHosts => HostsRefuse
  | .fetchTimeout => LimitRefuses
  | .reportTimeout => LimitRefuses

/-- the overlay may be laid: its path names a setting that takes its value -/
def Overlay.Lays (o : Overlay) : Prop := ∃ s : Setting, o.path = s.path ∧ s.Takes o.value

/-- what is wrong with an overlay -/
inductive Overlay.Defect (o : Overlay) : PolicyError → Prop where
  | path (h : ∀ s : Setting, o.path ≠ s.path) : Defect o (.unsupportedPath o.path)
  | value {s : Setting} (hs : o.path = s.path) {fault : ValueFault} (h : s.Refuses o.value fault) :
      Defect o (.invalidValue fault)

/-- what is wrong first with overlays that are laid one after the other -/
def FirstDefect (os : List Overlay) (e : PolicyError) : Prop :=
  ∃ before o after, os = before ++ o :: after ∧ (∀ o' ∈ before, o'.Lays) ∧ o.Defect e

/-- every file that exists can be read and made out, and its overlays laid -/
def FilesLay (w : Surroundings) (paths : List String) : Prop :=
  ∀ path ∈ paths, (w.file path).exists? = true → ∃ os, FileLayer (w.file path) os ∧ ∀ o ∈ os, o.Lays

/-- what is wrong first with a file that exists -/
inductive FileDefect (path : String) (f : Stored) : PolicyError → Prop where
  | unreadable {reason : String} (h : f.text = .error reason) : FileDefect path f (.unreadable path reason)
  | malformed {s : String} (hs : f.text = .ok s) (hblank : Text.isBlankText s.toList = false) (h : Yaml.read? s = none) :
      FileDefect path f (.invalid .file)
  | overlay {os : List Overlay} (hos : FileLayer f os) {e : PolicyError} (h : FirstDefect os e) : FileDefect path f e

/-- overlays of the variables, in the order of the environment -/
def namedOverlays (env : Environment) : List Overlay := env.filterMap fun e => variableOverlay? e.1 e.2

/-- what is wrong first with the JSON text in the environment and the variables: the text is made out before anything is laid -/
inductive VariablesDefect (env : Environment) : PolicyError → Prop where
  | malformed {s : String} (hs : env.value? jsonVariable = some s) (hblank : Text.isBlankText s.toList = false)
      (h : Json.Value.read? s = none) : VariablesDefect env (.invalid .variable)
  | overlay {json : List Overlay} (hjson : JsonLayer env json) {e : PolicyError}
      (h : FirstDefect (namedOverlays env ++ json) e) : VariablesDefect env e

/-- the JSON text can be made out, and the overlays of the variables and of the text laid -/
def VariablesLay (env : Environment) : Prop :=
  ∃ json, JsonLayer env json ∧ ∀ o ∈ namedOverlays env ++ json, o.Lays

/-- what is wrong first with a policy that is loaded -/
inductive LoadDefect (w : Surroundings) (o : Options) : PolicyError → Prop where
  | file {earlier later : List String} {path : String} (hpath : o.paths = earlier ++ path :: later)
      (hearlier : FilesLay w earlier) (hexists : (w.file path).exists? = true) {e : PolicyError}
      (h : FileDefect path (w.file path) e) : LoadDefect w o e
  | environment (hfiles : FilesLay w o.paths) (hused : o.usesVariables = true) {e : PolicyError}
      (h : VariablesDefect w.env e) : LoadDefect w o e
  | assignments (hfiles : FilesLay w o.paths) (hvariables : o.usesVariables = true → VariablesLay w.env)
      (hused : o.usesAssignments = true) {e : PolicyError} (h : FirstDefect (assignmentOverlays w.env) e) : LoadDefect w o e

/-- the overlay is one of those that the policy is loaded from -/
inductive LoadsFrom (w : Surroundings) (o : Options) : Overlay → Prop where
  | file {path s : String} {v : Json.Value} {x : Overlay} (hpath : path ∈ o.paths) (hs : (w.file path).text = .ok s)
      (hblank : Text.isBlankText s.toList = false) (hv : Yaml.read? s = some v) (hx : x ∈ leafOverlays .file v) :
      LoadsFrom w o x
  | variable {x : Overlay} (hused : o.usesVariables = true) (hx : x ∈ namedOverlays w.env) : LoadsFrom w o x
  | json {s : String} {v : Json.Value} {x : Overlay} (hused : o.usesVariables = true)
      (hs : w.env.value? jsonVariable = some s) (hblank : Text.isBlankText s.toList = false)
      (hv : Json.Value.read? s = some v) (hx : x ∈ leafOverlays .env v) : LoadsFrom w o x
  | assignment {x : Overlay} (hused : o.usesAssignments = true) (hx : x ∈ assignmentOverlays w.env) : LoadsFrom w o x

/-- nothing is wrong with the policy: every file that exists can be read, and made out unless it is blank; so can the JSON text;
and every overlay may be laid, whether or not a later one lies over it -/
structure Loadable (w : Surroundings) (o : Options) : Prop where
  readable : ∀ path ∈ o.paths, (w.file path).exists? = true → ∃ s, (w.file path).text = .ok s
  documents : ∀ path ∈ o.paths, ∀ s, (w.file path).text = .ok s → Text.isBlankText s.toList = false →
    ∃ v, Yaml.read? s = some v
  json : o.usesVariables = true → ∀ s, w.env.value? jsonVariable = some s → Text.isBlankText s.toList = false →
    ∃ v, Json.Value.read? s = some v
  overlays : ∀ x, LoadsFrom w o x → x.Lays

/-! ## Values and overlays -/

theorem readSwitch_eq_error_iff {x : Json.Value} {fault : ValueFault} :
    readSwitch x = .error fault ↔ SwitchRefuses x fault := by
  cases x <;> simp [readSwitch, Json.Value.asBool?, SwitchRefuses, eq_comm]

theorem readTimeout_eq_error_iff {x : Json.Value} {fault : ValueFault} :
    readTimeout x = .error fault ↔ LimitRefuses x fault := by
  cases x with
  | number y =>
    cases y with
    | natural n => by_cases hn : n = 0 <;> simp [readTimeout, Json.Value.asNatural?, LimitRefuses, hn, eq_comm]
    | _ => simp [readTimeout, Json.Value.asNatural?, LimitRefuses, eq_comm]
  | _ => simp [readTimeout, Json.Value.asNatural?, LimitRefuses, eq_comm]

theorem readHost_eq_error_iff {x : Json.Value} {fault : ValueFault} :
    readHost x = .error fault ↔ (∀ s, x ≠ .text s) ∧ fault = .notHost x := by
  cases x <;> simp [readHost, Json.Value.asText?, eq_comm]

theorem hostsRefuse_iff_of_not_array {x : Json.Value} {fault : ValueFault} (h : ∀ items, x ≠ .array items) :
    HostsRefuse x fault ↔ x ≠ .null ∧ (∀ s, x ≠ .text s) ∧ fault = .notHostList x := by
  constructor
  · intro hrefuse
    cases hrefuse with
    | item => exact absurd rfl (h _)
    | form hnull htext => exact ⟨hnull, htext, rfl⟩
  · rintro ⟨hnull, htext, rfl⟩
    exact .form hnull htext h

theorem readHosts_eq_error_iff {x : Json.Value} {fault : ValueFault} :
    readHosts x = .error fault ↔ HostsRefuse x fault := by
  cases x with
  | array items =>
    have hmap : readHosts (.array items) = .error fault ↔ items.mapM readHost = .error fault := by
      rw [readHosts]
      cases items.mapM readHost <;> simp [Except.map]
    rw [hmap, mapM_eq_error_iff]
    simp only [readHost_isOk_iff, readHost_eq_error_iff]
    constructor
    · rintro ⟨before, i, after, rfl, hbefore, hi, rfl⟩
      exact .item hbefore hi
    · intro h
      cases h with
      | @item before after i hbefore hi => exact ⟨before, i, after, rfl, hbefore, hi, rfl⟩
      | form _ _ harray => exact absurd rfl (harray items)
  | _ =>
    rw [hostsRefuse_iff_of_not_array (by simp)]
    simp [readHosts, eq_comm]

/-- A setting refuses what it does not take, and says why. -/
theorem read_eq_error_iff {s : Setting} {x : Json.Value} {fault : ValueFault} :
    s.read x = .error fault ↔ s.Refuses x fault := by
  cases s with
  | adsEnabled => exact readSwitch_eq_error_iff
  | confirmationEvents => exact readSwitch_eq_error_iff
  | allowedHosts => exact readHosts_eq_error_iff
  | fetchTimeout => exact readTimeout_eq_error_iff
  | reportTimeout => exact readTimeout_eq_error_iff

/-- Whether an overlay can be laid does not depend on what lies below. -/
theorem lay_isOk_iff (p : Snapshot) (o : Overlay) : (∃ q, p.lay o = .ok q) ↔ o.Lays := by
  constructor
  · rintro ⟨q, hq⟩
    obtain ⟨s, v, ⟨hpath, hv⟩, -⟩ := Snapshot.lay_eq_ok_iff.1 hq
    exact ⟨s, hpath, read_isOk_iff.1 ⟨v, hv⟩⟩
  · rintro ⟨s, hpath, htakes⟩
    obtain ⟨v, hv⟩ := read_isOk_iff.2 htakes
    exact ⟨_, Snapshot.lay_eq_ok_iff.2 ⟨s, v, ⟨hpath, hv⟩, rfl⟩⟩

theorem ofPath?_eq_none_iff {path : String} : Setting.ofPath? path = none ↔ ∀ s : Setting, path ≠ s.path := by
  simp only [Option.eq_none_iff_forall_ne_some, ne_eq, Setting.ofPath?_eq_some_iff]

/-- Nor does what is wrong with it. -/
theorem lay_eq_error_iff (p : Snapshot) (o : Overlay) (e : PolicyError) : p.lay o = .error e ↔ o.Defect e := by
  constructor
  · intro h
    unfold Snapshot.lay at h
    split at h
    · next hnone =>
      obtain rfl := Except.error.inj h
      exact .path (ofPath?_eq_none_iff.1 hnone)
    · next s hs =>
      split at h
      · next fault hfault =>
        obtain rfl := Except.error.inj h
        exact .value (Setting.ofPath?_eq_some_iff.1 hs) (read_eq_error_iff.1 hfault)
      · cases h
  · intro h
    cases h with
    | path hnone => simp only [Snapshot.lay, ofPath?_eq_none_iff.2 hnone]
    | value hpath hrefuses =>
      simp only [Snapshot.lay, Setting.ofPath?_eq_some_iff.2 hpath, read_eq_error_iff.2 hrefuses]

/-- Overlays are laid one after the other if each of them may be. -/
theorem layAll_isOk_iff {p : Snapshot} {os : List Overlay} : (∃ q, p.layAll os = .ok q) ↔ ∀ o ∈ os, o.Lays :=
  foldlM_isOk_iff_of lay_isOk_iff

/-- Otherwise the first one that may not be laid says why. -/
theorem layAll_eq_error_iff {p : Snapshot} {os : List Overlay} {e : PolicyError} :
    p.layAll os = .error e ↔ FirstDefect os e :=
  foldlM_eq_error_iff_of lay_isOk_iff lay_eq_error_iff

/-! ## Files -/

/-- A file that cannot be read or made out says why. -/
theorem fileOverlays_eq_error_iff {path : String} {f : Stored} {e : PolicyError} :
    fileOverlays path f = .error e ↔
      (∃ reason, f.text = .error reason ∧ e = .unreadable path reason) ∨
        ∃ s, f.text = .ok s ∧ Text.isBlankText s.toList = false ∧ Yaml.read? s = none ∧ e = .invalid .file := by
  constructor
  · intro h
    unfold fileOverlays at h
    split at h
    · next reason hs => exact .inl ⟨reason, hs, (Except.error.inj h).symm⟩
    · next s hs =>
      split at h
      · cases h
      · next hblank =>
        split at h
        · next hv => exact .inr ⟨s, hs, Bool.not_eq_true _ ▸ hblank, hv, (Except.error.inj h).symm⟩
        · cases h
  · rintro (⟨reason, hs, rfl⟩ | ⟨s, hs, hblank, hv, rfl⟩)
    · simp only [fileOverlays, hs]
    · simp only [fileOverlays, hs, hblank, hv, Bool.false_eq_true, if_false]

def layFile (file : String → Stored) (p : Snapshot) (path : String) : Except PolicyError Snapshot :=
  fileOverlays path (file path) >>= p.layAll

/-- Loading files is laying those that exist, one after the other. -/
theorem loadFiles_eq (file : String → Stored) (p : Snapshot) (paths : List String) :
    (loadFiles file p paths).2 = (paths.filter fun path => (file path).exists?).foldlM (layFile file) p := by
  induction paths generalizing p with
  | nil => rfl
  | cons path rest ih =>
    unfold loadFiles
    cases hexists : (file path).exists? with
    | false => simp [hexists, ih]
    | true =>
      simp only [hexists, if_true, List.filter_cons, List.foldlM_cons, layFile]
      cases hlay : fileOverlays path (file path) >>= p.layAll with
      | error e => rfl
      | ok q => exact ih q

theorem layFile_isOk_iff (file : String → Stored) (p : Snapshot) (path : String) :
    (∃ q, layFile file p path = .ok q) ↔ ∃ os, FileLayer (file path) os ∧ ∀ o ∈ os, o.Lays := by
  constructor
  · rintro ⟨q, hq⟩
    obtain ⟨os, hos, hlay⟩ := bind_eq_ok.1 hq
    exact ⟨os, fileOverlays_eq_ok_iff.1 hos, layAll_isOk_iff.1 ⟨q, hlay⟩⟩
  · rintro ⟨os, hos, hlays⟩
    obtain ⟨q, hlay⟩ := layAll_isOk_iff.2 hlays
    exact ⟨q, bind_eq_ok.2 ⟨os, fileOverlays_eq_ok_iff.2 hos, hlay⟩⟩

theorem layFile_eq_error_iff (file : String → Stored) (p : Snapshot) (path : String) (e : PolicyError) :
    layFile file p path = .error e ↔ FileDefect path (file path) e := by
  rw [layFile, bind_eq_error, fileOverlays_eq_error_iff]
  simp only [fileOverlays_eq_ok_iff, layAll_eq_error_iff]
  constructor
  · rintro ((⟨reason, hs, rfl⟩ | ⟨s, hs, hblank, hv, rfl⟩) | ⟨os, hos, hdefect⟩)
    · exact .unreadable hs
    · exact .malformed hs hblank hv
    · exact .overlay hos hdefect
  · intro h
    cases h with
    | unreadable hs => exact .inl (.inl ⟨_, hs, rfl⟩)
    | malformed hs hblank hv => exact .inl (.inr ⟨_, hs, hblank, hv, rfl⟩)
    | overlay hos hdefect => exact .inr ⟨_, hos, hdefect⟩

theorem loadFiles_isOk_iff {w : Surroundings} {p : Snapshot} {paths : List String} :
    (∃ q, (loadFiles w.file p paths).2 = .ok q) ↔ FilesLay w paths := by
  rw [loadFiles_eq, foldlM_isOk_iff_of (layFile_isOk_iff w.file)]
  simp [FilesLay]

theorem loadFiles_eq_error_iff {w : Surroundings} {p : Snapshot} {paths : List String} {e : PolicyError} :
    (loadFiles w.file p paths).2 = .error e ↔
      ∃ earlier path later, paths = earlier ++ path :: later ∧ FilesLay w earlier ∧ (w.file path).exists? = true ∧
        FileDefect path (w.file path) e := by
  rw [loadFiles_eq, foldlM_eq_error_iff_of (layFile_isOk_iff w.file) (layFile_eq_error_iff w.file)]
  constructor
  · rintro ⟨before, path, after, hsplit, hbefore, hdefect⟩
    obtain ⟨earlier, rest, rfl, hearlier, hrest⟩ := List.filter_eq_append_iff.1 hsplit
    obtain ⟨skipped, later, rfl, hskipped, hexists, -⟩ := List.filter_eq_cons_iff.1 hrest
    refine ⟨earlier ++ skipped, path, later, by simp, fun p hp hpe => ?_, hexists, hdefect⟩
    rcases List.mem_append.1 hp with hp | hp
    · exact hbefore p (hearlier ▸ List.mem_filter.2 ⟨hp, hpe⟩)
    · exact absurd hpe (hskipped p hp)
  · rintro ⟨earlier, path, later, rfl, hearlier, hexists, hdefect⟩
    refine ⟨earlier.filter fun p => (w.file p).exists?, path, later.filter fun p => (w.file p).exists?,
      by simp [hexists], fun p hp => ?_, hdefect⟩
    obtain ⟨hp, hpe⟩ := List.mem_filter.1 hp
    exact hearlier p hp hpe

/-! ## Variables -/

/-- The variables come before the leaves of the JSON text. -/
theorem variableOverlays_eq_ok_iff {env : Environment} {os : List Overlay} :
    variableOverlays env = .ok os ↔ ∃ json, JsonLayer env json ∧ os = namedOverlays env ++ json := by
  constructor
  · exact json_of_variableOverlays
  · rintro ⟨json, hjson, rfl⟩
    unfold JsonLayer at hjson
    unfold variableOverlays
    cases hs : env.value? jsonVariable with
    | none =>
      rw [hs] at hjson
      simp only [hjson, List.append_nil, namedOverlays]
    | some s =>
      simp only [hs] at hjson ⊢
      split at hjson
      · next hblank => simp only [if_pos hblank, hjson, List.append_nil, namedOverlays]
      · next hblank =>
        obtain ⟨v, hv, -, rfl⟩ := hjson
        simp only [if_neg hblank, hv, overlaysOf_eq, namedOverlays]

/-- They are not had if the JSON text cannot be made out. -/
theorem variableOverlays_eq_error_iff {env : Environment} {e : PolicyError} :
    variableOverlays env = .error e ↔
      ∃ s, env.value? jsonVariable = some s ∧ Text.isBlankText s.toList = false ∧ Json.Value.read? s = none ∧
        e = .invalid .variable := by
  constructor
  · intro h
    unfold variableOverlays at h
    split at h
    · cases h
    · next s hs =>
      split at h
      · cases h
      · next hblank =>
        split at h
        · next hv => exact ⟨s, hs, Bool.not_eq_true _ ▸ hblank, hv, (Except.error.inj h).symm⟩
        · cases h
  · rintro ⟨s, hs, hblank, hv, rfl⟩
    simp only [variableOverlays, hs, hblank, hv, Bool.false_eq_true, if_false]

/-- the overlays of the variables and of the JSON text laid -/
def layVariables (env : Environment) (p : Snapshot) : Except PolicyError Snapshot := variableOverlays env >>= p.layAll

theorem layVariables_isOk_iff {env : Environment} {p : Snapshot} :
    (∃ q, layVariables env p = .ok q) ↔ VariablesLay env := by
  constructor
  · rintro ⟨q, hq⟩
    obtain ⟨os, hos, hlay⟩ := bind_eq_ok.1 hq
    obtain ⟨json, hjson, rfl⟩ := variableOverlays_eq_ok_iff.1 hos
    exact ⟨json, hjson, layAll_isOk_iff.1 ⟨q, hlay⟩⟩
  · rintro ⟨json, hjson, hlays⟩
    obtain ⟨q, hlay⟩ := layAll_isOk_iff.2 hlays
    exact ⟨q, bind_eq_ok.2 ⟨_, variableOverlays_eq_ok_iff.2 ⟨json, hjson, rfl⟩, hlay⟩⟩

theorem layVariables_eq_error_iff {env : Environment} {p : Snapshot} {e : PolicyError} :
    layVariables env p = .error e ↔ VariablesDefect env e := by
  rw [layVariables, bind_eq_error, variableOverlays_eq_error_iff]
  simp only [variableOverlays_eq_ok_iff, layAll_eq_error_iff]
  constructor
  · rintro (⟨s, hs, hblank, hv, rfl⟩ | ⟨os, ⟨json, hjson, rfl⟩, hdefect⟩)
    · exact .malformed hs hblank hv
    · exact .overlay hjson hdefect
  · intro h
    cases h with
    | malformed hs hblank hv => exact .inl ⟨_, hs, hblank, hv, rfl⟩
    | overlay hjson hdefect => exact .inr ⟨_, ⟨_, hjson, rfl⟩, hdefect⟩

/-! ## Policies -/

theorem layIf_isOk_iff {c : Prop} [Decidable c] {x : Except PolicyError Snapshot} {p : Snapshot} :
    (∃ q, (if c then x else .ok p) = .ok q) ↔ (c → ∃ q, x = .ok q) := by
  split <;> simp_all

theorem layIf_eq_error_iff {c : Prop} [Decidable c] {x : Except PolicyError Snapshot} {p : Snapshot} {e : PolicyError} :
    (if c then x else .ok p) = .error e ↔ c ∧ x = .error e := by
  split <;> simp_all

/-- A policy loads if its files can be laid, and then its variables and its assignments, as far as they are used. -/
theorem load_isOk_iff {w : Surroundings} {o : Options} :
    (∃ p, load w o = .ok p) ↔
      FilesLay w o.paths ∧ (o.usesVariables = true → VariablesLay w.env) ∧
        (o.usesAssignments = true → ∀ x ∈ assignmentOverlays w.env, x.Lays) := by
  rw [load_eq]
  constructor
  · rintro ⟨p, h⟩
    obtain ⟨q, hq, h⟩ := bind_eq_ok.1 h
    obtain ⟨r, hr, h⟩ := bind_eq_ok.1 h
    refine ⟨loadFiles_isOk_iff.1 ⟨q, hq⟩, fun hused => ?_, fun hused => ?_⟩
    · exact layVariables_isOk_iff.1 (layIf_isOk_iff.1 ⟨r, hr⟩ hused)
    · exact layAll_isOk_iff.1 (layIf_isOk_iff.1 ⟨p, h⟩ hused)
  · rintro ⟨hfiles, hvariables, hassignments⟩
    obtain ⟨q, hq⟩ := loadFiles_isOk_iff.2 hfiles
    obtain ⟨r, hr⟩ := layIf_isOk_iff.2 fun hused => layVariables_isOk_iff.2 (hvariables hused)
    obtain ⟨p, hp⟩ := layIf_isOk_iff.2 fun hused => layAll_isOk_iff.2 (hassignments hused)
    exact ⟨p, bind_eq_ok.2 ⟨q, hq, bind_eq_ok.2 ⟨r, hr, hp⟩⟩⟩

/-- Otherwise it fails as the first of them that cannot. -/
theorem load_eq_error_iff {w : Surroundings} {o : Options} {e : PolicyError} :
    load w o = .error e ↔ LoadDefect w o e := by
  rw [load_eq, bind_eq_error]
  constructor
  · rintro (h | ⟨q, hq, h⟩)
    · obtain ⟨earlier, path, later, hpath, hearlier, hexists, hdefect⟩ := loadFiles_eq_error_iff.1 h
      exact .file hpath hearlier hexists hdefect
    · have hfiles := loadFiles_isOk_iff.1 ⟨q, hq⟩
      rcases bind_eq_error.1 h with h | ⟨r, hr, h⟩
      · obtain ⟨hused, h⟩ := layIf_eq_error_iff.1 h
        exact .environment hfiles hused (layVariables_eq_error_iff.1 h)
      · obtain ⟨hused, h⟩ := layIf_eq_error_iff.1 h
        have hvariables := fun hused => layVariables_isOk_iff.1 (layIf_isOk_iff.1 ⟨r, hr⟩ hused)
        exact .assignments hfiles hvariables hused (layAll_eq_error_iff.1 h)
  · intro h
    cases h with
    | file hpath hearlier hexists hdefect =>
      exact .inl (loadFiles_eq_error_iff.2 ⟨_, _, _, hpath, hearlier, hexists, hdefect⟩)
    | environment hfiles hused hdefect =>
      obtain ⟨q, hq⟩ := loadFiles_isOk_iff.2 hfiles
      refine .inr ⟨q, hq, bind_eq_error.2 (.inl ?_)⟩
      exact layIf_eq_error_iff.2 ⟨hused, layVariables_eq_error_iff.2 hdefect⟩
    | assignments hfiles hvariables hused hdefect =>
      obtain ⟨q, hq⟩ := loadFiles_isOk_iff.2 hfiles
      obtain ⟨r, hr⟩ := layIf_isOk_iff.2 fun hused => layVariables_isOk_iff.2 (hvariables hused)
      refine .inr ⟨q, hq, bind_eq_error.2 (.inr ⟨r, hr, ?_⟩)⟩
      exact layIf_eq_error_iff.2 ⟨hused, layAll_eq_error_iff.2 hdefect⟩

/-- A file can be laid if it can be read and made out, and the leaves of its document may be laid. -/
theorem fileLays_iff {f : Stored} :
    (∃ os, FileLayer f os ∧ ∀ o ∈ os, o.Lays) ↔
      ∃ s, f.text = .ok s ∧
        (Text.isBlankText s.toList = false → ∃ v, Yaml.read? s = some v ∧ ∀ o ∈ leafOverlays .file v, o.Lays) := by
  constructor
  · rintro ⟨os, ⟨s, hs, hlists⟩, hlays⟩
    refine ⟨s, hs, fun hblank => ?_⟩
    simp only [hblank, Bool.false_eq_true, if_false] at hlists
    obtain ⟨v, hv, -, rfl⟩ := hlists
    exact ⟨v, hv, hlays⟩
  · rintro ⟨s, hs, hdocument⟩
    cases hblank : Text.isBlankText s.toList with
    | true => exact ⟨[], ⟨s, hs, if_pos hblank ▸ rfl⟩, by simp⟩
    | false =>
      obtain ⟨v, hv, hlays⟩ := hdocument hblank
      have hordered := Json.Value.keyedLeaves_ordered (Yaml.ordered_of_read? hv)
      refine ⟨leafOverlays .file v, ⟨s, hs, ?_⟩, hlays⟩
      simp only [hblank, Bool.false_eq_true, if_false]
      exact ⟨v, hv, hordered, rfl⟩

/-- The variables can be laid if each of them may be, and the JSON text can be made out and its leaves may be laid. -/
theorem variablesLay_iff {env : Environment} :
    VariablesLay env ↔ (∀ o ∈ namedOverlays env, o.Lays) ∧
      ∀ s, env.value? jsonVariable = some s → Text.isBlankText s.toList = false →
        ∃ v, Json.Value.read? s = some v ∧ ∀ o ∈ leafOverlays .env v, o.Lays := by
  simp only [VariablesLay, JsonLayer, List.forall_mem_append]
  cases hs : env.value? jsonVariable with
  | none => simp
  | some s =>
    cases hblank : Text.isBlankText s.toList with
    | true =>
      constructor
      · rintro ⟨json, -, hnamed, -⟩
        refine ⟨hnamed, ?_⟩
        rintro _ ⟨⟩ hnot
        rw [hblank] at hnot
        cases hnot
      · rintro ⟨hnamed, -⟩
        exact ⟨[], by simp [hblank], hnamed, by simp⟩
    | false =>
      simp only [Bool.false_eq_true, if_false, Option.some.injEq, forall_eq', hblank, forall_const]
      constructor
      · rintro ⟨json, ⟨v, hv, -, rfl⟩, hnamed, hjson⟩
        exact ⟨hnamed, v, hv, hjson⟩
      · rintro ⟨hnamed, v, hv, hjson⟩
        have hordered := Json.Value.keyedLeaves_ordered (Json.Value.ordered_of_read? hv)
        exact ⟨_, ⟨v, hv, hordered, rfl⟩, hnamed, hjson⟩

theorem exists_of_text {f : Stored} {s : String} (h : f.text = .ok s) : f.exists? = true := by
  cases f <;> first | rfl | cases h

/-- Nothing is wrong with a policy if its files can be laid, and then its variables and its assignments. -/
theorem loadable_iff {w : Surroundings} {o : Options} :
    Loadable w o ↔
      FilesLay w o.paths ∧ (o.usesVariables = true → VariablesLay w.env) ∧
        (o.usesAssignments = true → ∀ x ∈ assignmentOverlays w.env, x.Lays) := by
  constructor
  · intro h
    refine ⟨fun path hpath hexists => fileLays_iff.2 ?_, fun hused => variablesLay_iff.2 ⟨?_, ?_⟩, ?_⟩
    · obtain ⟨s, hs⟩ := h.readable path hpath hexists
      refine ⟨s, hs, fun hblank => ?_⟩
      obtain ⟨v, hv⟩ := h.documents path hpath s hs hblank
      exact ⟨v, hv, fun x hx => h.overlays x (.file hpath hs hblank hv hx)⟩
    · exact fun x hx => h.overlays x (.variable hused hx)
    · intro s hs hblank
      obtain ⟨v, hv⟩ := h.json hused s hs hblank
      exact ⟨v, hv, fun x hx => h.overlays x (.json hused hs hblank hv hx)⟩
    · exact fun hused x hx => h.overlays x (.assignment hused hx)
  · rintro ⟨hfiles, hvariables, hassignments⟩
    have hfile := fun path hpath hexists => fileLays_iff.1 (hfiles path hpath hexists)
    -- a text that is read is read by one document alone, so what holds of the document found holds of every one
    have hdocument : ∀ path ∈ o.paths, ∀ s, (w.file path).text = .ok s → Text.isBlankText s.toList = false →
        ∃ v, Yaml.read? s = some v ∧ ∀ x ∈ leafOverlays .file v, x.Lays := by
      intro path hpath s hs hblank
      obtain ⟨s', hs', hlays⟩ := hfile path hpath (exists_of_text hs)
      obtain rfl := Except.ok.inj (hs.symm.trans hs')
      exact hlays hblank
    refine ⟨fun path hpath hexists => ?_, fun path hpath s hs hblank => ?_, fun hused s hs hblank => ?_, ?_⟩
    · obtain ⟨s, hs, -⟩ := hfile path hpath hexists
      exact ⟨s, hs⟩
    · obtain ⟨v, hv, -⟩ := hdocument path hpath s hs hblank
      exact ⟨v, hv⟩
    · obtain ⟨v, hv, -⟩ := (variablesLay_iff.1 (hvariables hused)).2 s hs hblank
      exact ⟨v, hv⟩
    · intro x hx
      cases hx with
      | file hpath hs hblank hv hx =>
        obtain ⟨v, hv', hlays⟩ := hdocument _ hpath _ hs hblank
        obtain rfl := Option.some.inj (hv.symm.trans hv')
        exact hlays x hx
      | «variable» hused hx => exact (variablesLay_iff.1 (hvariables hused)).1 x hx
      | json hused hs hblank hv hx =>
        obtain ⟨v, hv', hlays⟩ := (variablesLay_iff.1 (hvariables hused)).2 _ hs hblank
        obtain rfl := Option.some.inj (hv.symm.trans hv')
        exact hlays x hx
      | assignment hused hx => exact hassignments hused x hx

/-- **A policy loads exactly if nothing is wrong with it, and else fails for the first thing that is.** It loads if and only if
every file that exists can be read and, unless it is blank, made out, the JSON text in the environment too if variables are
used, and every overlay of every layer in use has the path of a setting and a value that the setting takes, also where a later
one lies over it. It fails with an error if and only if that is the first defect: of the files in the order of their paths, each
read, made out and laid by the order of its keys; then of the JSON text, which is made out before the variables are laid in the
order of the environment and its own overlays behind them; then of the assignments in their order. -/
theorem load_succeeds_or_names_first_defect (w : Surroundings) (o : Options) :
    ((∃ p, load w o = .ok p) ↔ Loadable w o) ∧ ∀ e, load w o = .error e ↔ LoadDefect w o e := by
  refine ⟨?_, fun e => load_eq_error_iff⟩
  rw [load_isOk_iff, loadable_iff]

end Policy

end AdConfirm
