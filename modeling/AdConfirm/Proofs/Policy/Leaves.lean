import AdConfirm.Policy.Overlay
import AdConfirm.Proofs.Outcome
import AdConfirm.Proofs.Table

/-!
The leaves of a structured value, by the keys that lead to them.

A leaf is whatever is no object. The path it is laid under is that of its keys, trimmed and lowered, with dots between them;
empty keys in front count for nothing.

- `leaves_eq`: the leaves of a value, each under the path of its keys.
- `Ordered`, `ordered_of_read?`: a JSON text stands for a value whose objects list their fields by key.
- `keyedLeaves_ordered`: so its leaves come in the order of their keys.
-/

namespace AdConfirm

namespace Json.Value

mutual

/-- the leaves of a value, each with the keys that lead to it -/
def keyedLeaves : Value → List (List String × Value)
  | .object fields => keyedFieldLeaves fields
  | v => [([], v)]

def keyedFieldLeaves : List (String × Value) → List (List String × Value)
  | [] => []
  | (key, v) :: rest => v.keyedLeaves.map (fun l => (key :: l.1, l.2)) ++ keyedFieldLeaves rest

end

/-- every object in the value, if it is not inside of an array, lists its fields by key and none twice -/
inductive Ordered : Value → Prop where
  | leaf {v : Value} (h : ∀ fields, v ≠ .object fields) : Ordered v
  | object {fields : List (String × Value)} (sorted : fields.Pairwise fun a b => a.1 < b.1)
      (inner : ∀ f ∈ fields, Ordered f.2) : Ordered (.object fields)

/-- The leaves of fields lie behind their keys. -/
theorem mem_keyedFieldLeaves {fields : List (String × Value)} {l : List String × Value} (h : l ∈ keyedFieldLeaves fields) :
    ∃ f ∈ fields, ∃ keys, l.1 = f.1 :: keys := by
  induction fields with
  | nil => simp [keyedFieldLeaves] at h
  | cons f rest ih =>
    rw [keyedFieldLeaves, List.mem_append] at h
    rcases h with h | h
    · obtain ⟨l', -, rfl⟩ := List.mem_map.1 h
      exact ⟨f, List.mem_cons_self, l'.1, rfl⟩
    · obtain ⟨g, hg, keys, hkeys⟩ := ih h
      exact ⟨g, List.mem_cons_of_mem f hg, keys, hkeys⟩

/-- So each of them has a path. -/
theorem filter_keyedFieldLeaves (fields : List (String × Value)) :
    (keyedFieldLeaves fields).filter (fun l => l.1 ≠ []) = keyedFieldLeaves fields := by
  refine List.filter_eq_self.2 fun l hl => ?_
  obtain ⟨f, -, keys, hkeys⟩ := mem_keyedFieldLeaves hl
  simp [hkeys]

/-- Fields listed by key have their leaves listed by key, if that holds of each of them. -/
theorem keyedFieldLeaves_ordered {fields : List (String × Value)} (sorted : fields.Pairwise fun a b => a.1 < b.1)
    (inner : ∀ f ∈ fields, f.2.keyedLeaves.Pairwise fun a b => a.1 < b.1) :
    (keyedFieldLeaves fields).Pairwise fun a b => a.1 < b.1 := by
  induction fields with
  | nil => exact List.Pairwise.nil
  | cons f rest ih =>
    obtain ⟨hfirst, hsorted⟩ := List.pairwise_cons.1 sorted
    rw [keyedFieldLeaves, List.pairwise_append]
    refine ⟨?_, ih hsorted fun g hg => inner g (List.mem_cons_of_mem f hg), ?_⟩
    · rw [List.pairwise_map]
      refine (inner f List.mem_cons_self).imp fun hlt => ?_
      exact List.cons_lt_cons_iff.2 (.inr ⟨rfl, hlt⟩)
    · intro a ha b hb
      obtain ⟨l, -, rfl⟩ := List.mem_map.1 ha
      obtain ⟨g, hg, keys, hkeys⟩ := mem_keyedFieldLeaves hb
      rw [hkeys]
      exact List.cons_lt_cons_iff.2 (.inl (hfirst g hg))

/-- The leaves of an ordered value come in the order of their keys. -/
theorem keyedLeaves_ordered {v : Value} (h : v.Ordered) : v.keyedLeaves.Pairwise fun a b => a.1 < b.1 := by
  induction h with
  | @leaf v h =>
    cases v with
    | object fields => exact absurd rfl (h fields)
    | _ => exact List.pairwise_singleton _ _
  | object sorted inner ih => exact keyedFieldLeaves_ordered sorted ih

theorem ordered_of_ofTree? {depth : Nat} {t : Tree} {v : Value} (h : ofTree? depth t = some v) : v.Ordered := by
  induction depth generalizing t v with
  | zero =>
    refine .leaf fun fields hv => ?_
    subst hv
    cases t <;> simp [ofTree?] at h
  | succ depth ih =>
    cases t with
    | object fields =>
      rw [ofTree?, Option.map_eq_some_iff] at h
      obtain ⟨fs, hfs, rfl⟩ := h
      refine .object (Table.ofList fs).sorted fun f hf => ?_
      obtain ⟨g, -, hg⟩ := exists_of_mem_mapM hfs (Table.mem_of_mem_ofList hf)
      simp only [Option.bind_eq_bind, Option.pure_def, Option.bind_eq_some_iff, Option.some.injEq] at hg
      obtain ⟨key, -, v, hv, rfl⟩ := hg
      exact ih hv
    | _ =>
      refine .leaf fun fields hv => ?_
      subst hv
      simp [ofTree?] at h

/-- A JSON text stands for a value whose objects list their fields by key. -/
theorem ordered_of_read? {s : String} {v : Value} (h : read? s = some v) : v.Ordered := by
  obtain ⟨t, -, ht⟩ := Option.bind_eq_some_iff.1 h
  exact ordered_of_ofTree? ht

end Json.Value

namespace Policy

open AdConfirm.Json (Value)

def pathOf (keys : List String) : String := Text.joined "." ((keys.map segment).dropWhile (· = ""))

/-- Keys one inside of the other extend the path step by step. -/
theorem pathOf_cons (key : String) (keys : List String) :
    pathOf (key :: keys) = keys.foldl (fun p k => extend (some p) k) (segment key) := by
  suffices h : ∀ p : String,
      keys.foldl (fun p k => extend (some p) k) p = Text.joined "." ((p :: keys.map segment).dropWhile (· = "")) from
    (h (segment key)).symm
  intro p
  induction keys generalizing p with
  | nil =>
    by_cases hp : p = "" <;> simp [Text.joined, hp]
  | cons k keys ih =>
    rw [List.foldl_cons, ih, List.map_cons]
    by_cases hp : p = ""
    · simp [extend, hp]
    · have hne : extend (some p) k = p ++ "." ++ segment k := by simp [extend, hp]
      have hfull : p ++ "." ++ segment k ≠ "" := by simp
      rw [hne]
      simp only [List.dropWhile_cons, decide_eq_true_eq, hp, hfull, if_false, Text.joined]
      cases keys with
      | nil => simp
      | cons k' keys => simp [String.intercalate_cons_cons, String.append_assoc]

mutual

theorem leaves_some (p : String) : ∀ v : Value,
    leaves (some p) v = v.keyedLeaves.map fun l => (l.1.foldl (fun p k => extend (some p) k) p, l.2)
  | .object fields => fieldLeaves_some p fields
  | .null => rfl
  | .bool _ => rfl
  | .number _ => rfl
  | .text _ => rfl
  | .array _ => rfl

theorem fieldLeaves_some (p : String) : ∀ fields : List (String × Value),
    fieldLeaves (some p) fields =
      (Value.keyedFieldLeaves fields).map fun l => (l.1.foldl (fun p k => extend (some p) k) p, l.2)
  | [] => rfl
  | (key, v) :: rest => by
    rw [fieldLeaves, Value.keyedFieldLeaves, leaves_some (extend (some p) key) v, fieldLeaves_some p rest, List.map_append,
      List.map_map]
    rfl

end

theorem fieldLeaves_none (fields : List (String × Value)) :
    fieldLeaves none fields = (Value.keyedFieldLeaves fields).map fun l => (pathOf l.1, l.2) := by
  induction fields with
  | nil => rfl
  | cons f rest ih =>
    obtain ⟨key, v⟩ := f
    rw [fieldLeaves, Value.keyedFieldLeaves, leaves_some, ih, List.map_append, List.map_map]
    congr 1
    refine List.map_congr_left fun l _ => ?_
    simp [pathOf_cons, extend]

/-- The leaves of a value are laid under the paths that their keys lead to; a value that is a leaf itself has no path. -/
theorem leaves_eq (v : Value) :
    leaves none v = (v.keyedLeaves.filter fun l => l.1 ≠ []).map fun l => (pathOf l.1, l.2) := by
  cases v with
  | object fields => rw [leaves, Value.keyedLeaves, Value.filter_keyedFieldLeaves, fieldLeaves_none]
  | _ => simp [leaves, Value.keyedLeaves]

end Policy

end AdConfirm
