/-!
Tables keyed by text: at most one entry per key, entries in increasing order of their keys.

The order is part of the type, so two tables that answer every look-up alike are the same table, and listing a table
never depends on how it was filled.
-/

namespace AdConfirm

/-- entries in strictly increasing key order -/
structure Table (α : Type) where
  entries : List (String × α)
  sorted : entries.Pairwise (fun a b => a.1 < b.1)

namespace Table

variable {α β : Type}

def empty : Table α := ⟨[], List.Pairwise.nil⟩

instance : Inhabited (Table α) := ⟨empty⟩

/-- first value listed under the key -/
def lookup (k : String) : List (String × α) → Option α
  | [] => none
  | (j, v) :: rest => if j = k then some v else lookup k rest

def find? (t : Table α) (k : String) : Option α := lookup k t.entries

def contains (t : Table α) (k : String) : Bool := (t.find? k).isSome

def size (t : Table α) : Nat := t.entries.length

/-- whether there is no entry at all -/
def isEmpty (t : Table α) : Bool := t.entries.isEmpty

def keys (t : Table α) : List String := t.entries.map (·.1)

def values (t : Table α) : List α := t.entries.map (·.2)

/-- puts the entry at its place, over an entry of the same key -/
def place (k : String) (v : α) : List (String × α) → List (String × α)
  | [] => [(k, v)]
  | (j, w) :: rest =>
    if j = k then (k, v) :: rest
    else if k < j then (k, v) :: (j, w) :: rest
    else (j, w) :: place k v rest

theorem mem_place {k : String} {v : α} {l : List (String × α)} {p : String × α} (h : p ∈ place k v l) :
    p = (k, v) ∨ p ∈ l := by
  induction l with
  | nil => simpa [place] using h
  | cons q rest ih =>
    obtain ⟨j, w⟩ := q
    simp only [place] at h
    split at h
    · grind
    · split at h <;> grind

theorem sorted_place (k : String) (v : α) (l : List (String × α)) (h : l.Pairwise (fun a b => a.1 < b.1)) :
    (place k v l).Pairwise (fun a b => a.1 < b.1) := by
  induction l with
  | nil => simp [place]
  | cons q rest ih =>
    obtain ⟨j, w⟩ := q
    rw [List.pairwise_cons] at h
    simp only [place]
    split
    · next hj => exact List.pairwise_cons.2 ⟨fun p hp => hj ▸ h.1 p hp, h.2⟩
    · next hj =>
      split
      · next hk =>
        refine List.pairwise_cons.2 ⟨fun p hp => ?_, List.pairwise_cons.2 h⟩
        rcases List.mem_cons.1 hp with rfl | hp
        · exact hk
        · exact String.lt_trans hk (h.1 p hp)
      · next hk =>
        refine List.pairwise_cons.2 ⟨fun p hp => ?_, ih h.2⟩
        rcases mem_place hp with rfl | hp
        · exact String.not_le.1 fun hle => hj (String.le_antisymm (String.not_lt.1 hk) hle)
        · exact h.1 p hp

/-- stores the value under the key, in place of any earlier one -/
def insert (t : Table α) (k : String) (v : α) : Table α := ⟨place k v t.entries, sorted_place k v t.entries t.sorted⟩

def erase (t : Table α) (k : String) : Table α := ⟨t.entries.filter (fun p => p.1 ≠ k), t.sorted.filter _⟩

def filter (t : Table α) (keep : String → α → Bool) : Table α :=
  ⟨t.entries.filter (fun p => keep p.1 p.2), t.sorted.filter _⟩

/-- a table filled from a list, the last of two equal keys winning -/
def ofList (l : List (String × α)) : Table α := l.foldl (fun t p => t.insert p.1 p.2) empty

/-- stores what `f` makes of the present value -/
def alter (t : Table α) (k : String) (f : Option α → α) : Table α := t.insert k (f (t.find? k))

@[simp] theorem find?_empty (k : String) : (empty : Table α).find? k = none := rfl

theorem lookup_place (k : String) (v : α) (j : String) (l : List (String × α)) :
    lookup j (place k v l) = if k = j then some v else lookup j l := by
  induction l with
  | nil => simp [place, lookup]
  | cons q rest ih =>
    obtain ⟨i, w⟩ := q
    simp only [place]
    split
    · next h => subst h; simp only [lookup]; split <;> rfl
    · split <;> grind [lookup]

/-- A stored value is found under its key, and under no other. -/
theorem find?_insert (t : Table α) (k : String) (v : α) (j : String) :
    (t.insert k v).find? j = if k = j then some v else t.find? j := lookup_place k v j t.entries

theorem lookup_filter_ne (k j : String) (l : List (String × α)) :
    lookup j (l.filter (fun p => p.1 ≠ k)) = if k = j then none else lookup j l := by
  induction l with
  | nil => simp [lookup]
  | cons q rest ih =>
    obtain ⟨i, w⟩ := q
    by_cases h : i = k <;> grind [lookup]

/-- An erased key is gone, and no other. -/
theorem find?_erase (t : Table α) (k j : String) :
    (t.erase k).find? j = if k = j then none else t.find? j := lookup_filter_ne k j t.entries

theorem lookup_eq_none {k : String} {l : List (String × α)} (h : lookup k l = none) : ∀ p ∈ l, p.1 ≠ k := by
  induction l with
  | nil => simp
  | cons q rest ih =>
    obtain ⟨j, w⟩ := q
    by_cases hj : j = k <;> grind [lookup]

/-- Erasing a key that is not there changes nothing. -/
theorem erase_of_find?_eq_none {t : Table α} {k : String} (h : t.find? k = none) : t.erase k = t := by
  obtain ⟨entries, sorted⟩ := t
  have hl : entries.filter (fun p => p.1 ≠ k) = entries :=
    List.filter_eq_self.2 fun p hp => by simpa using lookup_eq_none h p hp
  simp only [erase, hl]

theorem contains_erase (t : Table α) (k j : String) : (t.erase k).contains j = (decide (k ≠ j) && t.contains j) := by
  by_cases h : k = j <;> simp [contains, find?_erase, h]

end Table

end AdConfirm
