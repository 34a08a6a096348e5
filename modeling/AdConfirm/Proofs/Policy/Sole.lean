import AdConfirm.Proofs.Json.RoundTrip
import AdConfirm.Proofs.Policy.Defect

/-!
Policies that are loaded from one layer alone.

Where no file is there and all other layers are empty, loading lays the overlays of one layer over the built-in values. If these
are for different settings, none covers another: every setting that has one takes its value, and says so if that is not the value
it has had.

- `Alone`: nothing but some variables, a JSON text and assignments is there to load from.
- `Alone.load_eq`: loading lays their overlays, and no others.
- `layAll_each`: overlays for different settings.
-/

namespace AdConfirm.Policy

/-- there is nothing to load from but these variables that spell paths, this JSON text and these assignments: no file is there,
and a layer that is not used counts as empty -/
structure Alone (w : Surroundings) (o : Options) (named : List (String × String)) (json assigned : Option String) : Prop where
  files : ∀ path ∈ o.paths, (w.file path).exists? = false
  named : (if o.usesVariables then w.env.filter fun e => (variablePath? e.1).isSome else []) = named
  json : (if o.usesVariables then w.env.value? jsonVariable else none) = json
  assigned : (if o.usesAssignments then w.env.value? assignmentsVariable else none) = assigned

/-- the overlays of a JSON text, if there is one: it can be made out, and these are its leaves -/
def TextLayer : Option String → List Overlay → Prop
  | none, os => os = []
  | some s, os => ∃ v, Json.Value.read? s = some v ∧ os = leafOverlays .env v

/-- Only variables that spell paths have overlays. -/
theorem namedOverlays_eq (env : Environment) :
    namedOverlays env = (env.filter fun e => (variablePath? e.1).isSome).filterMap fun e => variableOverlay? e.1 e.2 := by
  rw [namedOverlays, List.filterMap_filter]
  refine List.filterMap_congr fun e _ => ?_
  cases h : variablePath? e.1 <;> simp [variableOverlay?, h]

namespace Alone

variable {w : Surroundings} {o : Options} {named : List (String × String)} {json assigned : Option String}

/-- No file is laid. -/
theorem loadFiles_eq_ok (h : Alone w o named json assigned) (p : Snapshot) : (loadFiles w.file p o.paths).2 = .ok p := by
  have hnone : (o.paths.filter fun path => (w.file path).exists?) = [] :=
    List.filter_eq_nil_iff.2 fun path hpath => by simp [h.files path hpath]
  rw [loadFiles_eq, hnone]
  rfl

/-- The overlays of the variables are those of the ones that spell paths, and the leaves of the JSON text. -/
theorem variables_eq_ok (h : Alone w o named json assigned) {os : List Overlay} (hos : TextLayer json os) :
    (if o.usesVariables then variableOverlays w.env else .ok []) =
      .ok (named.filterMap (fun e => variableOverlay? e.1 e.2) ++ os) := by
  obtain ⟨-, hnamed, hjson, -⟩ := h
  cases hused : o.usesVariables with
  | false =>
    simp only [hused, Bool.false_eq_true, if_false] at hnamed hjson ⊢
    subst hnamed hjson
    rw [show os = [] from hos]
    rfl
  | true =>
    simp only [hused, if_true] at hnamed hjson ⊢
    rw [variableOverlays_eq_ok_iff]
    refine ⟨os, ?_, by rw [namedOverlays_eq, hnamed]⟩
    unfold JsonLayer
    cases json with
    | none =>
      rw [hjson]
      exact hos
    | some s =>
      obtain ⟨v, hv, rfl⟩ := hos
      obtain ⟨t, ht, -⟩ := Option.bind_eq_some_iff.1 hv
      have hordered := Json.Value.keyedLeaves_ordered (Json.Value.ordered_of_read? hv)
      simp only [hjson, Json.not_blank_of_read? ht, Bool.false_eq_true, if_false]
      exact ⟨v, hv, hordered, rfl⟩

/-- **Loading lays the overlays of what is there over the built-in values.** -/
theorem load_eq (h : Alone w o named json assigned) {os : List Overlay} (hos : TextLayer json os) :
    load w o = Snapshot.start.layAll
      (named.filterMap (fun e => variableOverlay? e.1 e.2) ++ os ++ (assigned.map assignments).getD []) := by
  set vs := named.filterMap (fun e => variableOverlay? e.1 e.2) ++ os
  have hvariables : (if o.usesVariables then variableOverlays w.env >>= Snapshot.start.layAll else .ok Snapshot.start) =
      Snapshot.start.layAll vs := by
    have heq := h.variables_eq_ok hos
    cases hused : o.usesVariables with
    | false =>
      simp only [hused, Bool.false_eq_true, if_false] at heq ⊢
      exact congrArg (· >>= Snapshot.start.layAll) heq
    | true =>
      simp only [hused, if_true] at heq ⊢
      rw [heq]
      rfl
  have hassigned : ∀ r : Snapshot, (if o.usesAssignments then r.layAll (assignmentOverlays w.env) else .ok r) =
      r.layAll ((assigned.map assignments).getD []) := by
    intro r
    have heq := h.assigned
    cases hused : o.usesAssignments with
    | false =>
      simp only [hused, Bool.false_eq_true, if_false] at heq ⊢
      subst heq
      rfl
    | true =>
      simp only [hused, if_true] at heq ⊢
      rw [assignmentOverlays, heq]
  calc load w o
      = .ok Snapshot.start >>= fun q =>
          (if o.usesVariables then variableOverlays w.env >>= q.layAll else .ok q) >>= fun r =>
            if o.usesAssignments then r.layAll (assignmentOverlays w.env) else .ok r := by
        rw [Policy.load_eq, h.loadFiles_eq_ok]
    _ = Snapshot.start.layAll vs >>= fun r => r.layAll ((assigned.map assignments).getD []) := by
        rw [← hvariables]
        exact congrArg _ (funext hassigned)
    _ = Snapshot.start.layAll (vs ++ (assigned.map assignments).getD []) := List.foldlM_append.symm

end Alone

/-- A JSON text alone in the environment. -/
theorem alone_json (paths : List String) (text : String) :
    Alone ⟨fun _ => .missing, [(jsonVariable, text)]⟩ ⟨paths, true, true⟩ [] (some text) none := by
  have hpath : variablePath? jsonVariable = none := by decide +kernel
  refine ⟨fun _ _ => rfl, ?_, ?_, ?_⟩
  · simp [hpath]
  · simp [Environment.value?]
  · simp [Environment.value?, jsonVariable, assignmentsVariable]

/-- **Overlays for different settings** are laid each over its own setting, which takes the value, and says so if that is another
one; all other settings stay as they are. -/
theorem layAll_each {os : List Overlay} {v : (s : Setting) → s.Value} {source : Source} (hn : (os.map (·.path)).Nodup)
    (hsets : ∀ o ∈ os, o.source = source ∧ ∃ s, Sets s (v s) o) (p : Snapshot) :
    ∃ q, p.layAll os = .ok q ∧ (∀ s : Setting, q.get s = if s.path ∈ os.map (·.path) then v s else p.get s) ∧
      ∀ key, q.provenance.find? key =
        match Setting.ofPath? key with
        | none => p.provenance.find? key
        | some s => if key ∈ os.map (·.path) ∧ p.get s ≠ v s then some ⟨key, source⟩ else p.provenance.find? key := by
  induction os generalizing p with
  | nil => exact ⟨p, rfl, by simp, fun key => by cases Setting.ofPath? key <;> simp⟩
  | cons o os ih =>
    obtain ⟨hnew, hrest⟩ := List.nodup_cons.1 (List.map_cons ▸ hn)
    obtain ⟨⟨hsource, s, hpath, hread⟩, hsets⟩ := List.forall_mem_cons.1 hsets
    obtain ⟨q, hq, hget, hfind⟩ := ih hrest hsets (p.merge s (v s) source)
    simp only [hpath] at hnew
    refine ⟨q, ?_, fun s' => ?_, fun key => ?_⟩
    · have hlay : p.lay o = .ok (p.merge s (v s) source) := Snapshot.lay_eq_ok_iff.2 ⟨s, v s, ⟨hpath, hread⟩, by rw [hsource]⟩
      exact bind_eq_ok.2 ⟨_, hlay, hq⟩
    · rw [hget]
      simp only [List.map_cons, List.mem_cons, hpath]
      by_cases hs : s' = s
      · subst hs
        simp [hnew, Snapshot.get_merge]
      · have hne : s'.path ≠ s.path := fun heq => hs (Setting.path_injective heq)
        simp [hne, Snapshot.get_merge_of_ne p (v s) source hs]
    · rw [hfind, Snapshot.source_merge]
      simp only [List.map_cons, List.mem_cons, hpath]
      cases hs' : Setting.ofPath? key with
      | none =>
        have hne : s.path ≠ key := fun heq => ofPath?_eq_none_iff.1 hs' s heq.symm
        simp [hne]
      | some s' =>
        obtain rfl := Setting.ofPath?_eq_some_iff.1 hs'
        by_cases hs : s' = s
        · subst hs
          simp [hnew]
        · have hne : s'.path ≠ s.path := fun heq => hs (Setting.path_injective heq)
          simp [hne, hne.symm, Snapshot.get_merge_of_ne p (v s) source hs]

end AdConfirm.Policy
