import Mathlib.Data.List.Induction
import Mathlib.Data.List.Nodup
import AdConfirm.Table

/-!
Tables as what they hold under their keys.

- `Table.mem_entries_iff`: the entries of a table are what is found under its keys.
- `Table.mem_keys_iff`: the keys of a table are those under which something is found. `Table.size_insert_of_contains`: so a
  value stored over another adds no entry.
- `Table.ext_of_find?`: tables in which the same is found are the same.
- `Table.find?_filter_eq_some_iff`: what is found in a filtered table.
- `Table.mem_of_mem_ofList`: a table filled from a list holds nothing else. `Table.perm_entries_ofList`: without equal keys, it
  holds all of it.
- `Table.foldl_erase_entries`: erasing keys one after the other leaves the entries of all other keys.
-/

namespace AdConfirm.Table

variable {α : Type}

theorem nodup_keys (t : Table α) : t.keys.Nodup := by
  rw [keys, List.Nodup, List.pairwise_map]
  refine t.sorted.imp fun {a b} hlt heq => ?_
  rw [heq] at hlt
  exact String.lt_irrefl _ hlt

theorem lookup_eq_some_of_mem {l : List (String × α)} (hn : (l.map (·.1)).Nodup) {k : String} {v : α} (h : (k, v) ∈ l) :
    lookup k l = some v := by
  induction l with
  | nil => cases h
  | cons e rest ih =>
    obtain ⟨j, w⟩ := e
    obtain ⟨hj, hrest⟩ := List.nodup_cons.1 hn
    rw [lookup]
    rcases List.mem_cons.1 h with heq | hmem
    · cases heq
      exact if_pos rfl
    · have hne : j ≠ k := by
        rintro rfl
        exact hj (List.mem_map.2 ⟨(j, v), hmem, rfl⟩)
      rw [if_neg hne, ih hrest hmem]

theorem mem_of_lookup_eq_some {l : List (String × α)} {k : String} {v : α} (h : lookup k l = some v) : (k, v) ∈ l := by
  induction l with
  | nil => cases h
  | cons e rest ih =>
    obtain ⟨j, w⟩ := e
    rw [lookup] at h
    split at h
    · next hj =>
      obtain rfl := Option.some.inj h
      exact hj ▸ List.mem_cons_self
    · exact List.mem_cons_of_mem _ (ih h)

/-- The entries of a table are what is found under its keys. -/
theorem mem_entries_iff {t : Table α} {k : String} {v : α} : (k, v) ∈ t.entries ↔ t.find? k = some v :=
  ⟨lookup_eq_some_of_mem t.nodup_keys, mem_of_lookup_eq_some⟩

/-- The keys of a table are those under which something is found. -/
theorem mem_keys_iff {t : Table α} {k : String} : k ∈ t.keys ↔ ∃ v, t.find? k = some v := by
  simp only [keys, List.mem_map, Prod.exists, ← mem_entries_iff]
  constructor
  · rintro ⟨k, v, hmem, rfl⟩
    exact ⟨v, hmem⟩
  · rintro ⟨v, hmem⟩
    exact ⟨k, v, hmem, rfl⟩

/-- A value stored over another adds no entry. -/
theorem size_insert_of_contains {t : Table α} {k : String} (h : t.contains k = true) (v : α) :
    (t.insert k v).size = t.size := by
  have hkeys : (t.insert k v).keys.Perm t.keys := by
    refine (List.perm_ext_iff_of_nodup (nodup_keys _) (nodup_keys _)).2 fun j => ?_
    rw [mem_keys_iff, mem_keys_iff, find?_insert]
    split_ifs with hj
    · subst hj
      simpa using Option.isSome_iff_exists.1 h
    · rfl
  simpa [keys, size] using hkeys.length_eq

/-- Two tables in which the same is found under every key are the same. -/
theorem ext_of_find? {t u : Table α} (h : ∀ k v, t.find? k = some v ↔ u.find? k = some v) : t = u := by
  have hnodup : ∀ t : Table α, t.entries.Nodup := fun t => List.Nodup.of_map _ t.nodup_keys
  have hperm : t.entries.Perm u.entries := by
    refine (List.perm_ext_iff_of_nodup (hnodup t) (hnodup u)).2 ?_
    rintro ⟨k, v⟩
    rw [mem_entries_iff, mem_entries_iff, h]
  have heq : t.entries = u.entries := by
    refine hperm.eq_of_pairwise (fun a b _ _ hab hba => ?_) t.sorted u.sorted
    exact absurd (String.lt_trans hab hba) (String.lt_irrefl _)
  cases t
  cases u
  simpa using heq

/-- What is found in a filtered table passes the test. -/
theorem find?_filter_eq_some_iff {t : Table α} {keep : String → α → Bool} {k : String} {v : α} :
    (t.filter keep).find? k = some v ↔ t.find? k = some v ∧ keep k v = true := by
  rw [← mem_entries_iff, ← mem_entries_iff, filter, List.mem_filter]

/-- A table filled from a list holds nothing but what is in the list. -/
theorem mem_of_mem_ofList {l : List (String × α)} {p : String × α} (h : p ∈ (ofList l).entries) : p ∈ l := by
  suffices hgen : ∀ t : Table α, p ∈ (l.foldl (fun t q => t.insert q.1 q.2) t).entries → p ∈ t.entries ∨ p ∈ l from
    (hgen empty h).resolve_left List.not_mem_nil
  clear h
  induction l with
  | nil => exact fun t h => .inl h
  | cons q rest ih =>
    intro t h
    rcases ih (t.insert q.1 q.2) h with h | h
    · rcases mem_place h with rfl | h
      · exact .inr List.mem_cons_self
      · exact .inl h
    · exact .inr (List.mem_cons_of_mem q h)

/-- What is found in a table that was filled from a list without equal keys is what the list has. -/
theorem find?_ofList {l : List (String × α)} (hn : (l.map (·.1)).Nodup) {k : String} {v : α} :
    (ofList l).find? k = some v ↔ (k, v) ∈ l := by
  induction l using List.reverseRecOn with
  | nil => simp [ofList]
  | append_singleton l e ih =>
    rw [List.map_append, List.nodup_append] at hn
    have hnew : ∀ w, (e.1, w) ∉ l := fun w hw => hn.2.2 e.1 (List.mem_map.2 ⟨(e.1, w), hw, rfl⟩) e.1 (by simp) rfl
    have hofList : ofList (l ++ [e]) = (ofList l).insert e.1 e.2 := by simp [ofList]
    rw [hofList, find?_insert, List.mem_append, List.mem_singleton]
    split
    · next hk =>
      subst hk
      simp [hnew, Prod.ext_iff, eq_comm]
    · next hk => simp [ih hn.1, Prod.ext_iff, Ne.symm hk]

/-- A table that was filled from a list without equal keys has the entries of the list. -/
theorem perm_entries_ofList {l : List (String × α)} (hn : (l.map (·.1)).Nodup) : (ofList l).entries.Perm l := by
  refine (List.perm_ext_iff_of_nodup (List.Nodup.of_map _ (nodup_keys _)) (List.Nodup.of_map _ hn)).2 ?_
  rintro ⟨k, v⟩
  rw [mem_entries_iff, find?_ofList hn]

theorem foldl_erase_entries (t : Table α) (ks : List String) :
    (ks.foldl Table.erase t).entries = t.entries.filter fun e => e.1 ∉ ks := by
  induction ks generalizing t with
  | nil => simp
  | cons k ks ih =>
    have herase : (t.erase k).entries = t.entries.filter fun e => e.1 ≠ k := rfl
    rw [List.foldl_cons, ih, herase, List.filter_filter]
    refine List.filter_congr fun e _ => ?_
    by_cases hk : e.1 = k <;> simp [hk]

theorem foldl_erase_empty (ks : List String) : ks.foldl Table.erase (Table.empty : Table α) = Table.empty := by
  induction ks with
  | nil => rfl
  | cons k ks ih => rw [List.foldl_cons, Table.erase_of_find?_eq_none (Table.find?_empty k), ih]

end AdConfirm.Table
