import AdConfirm.Json.Value
import AdConfirm.Proofs.Json.Double
import AdConfirm.Proofs.Json.RoundTrip
import AdConfirm.Proofs.Outcome

/-!
JSON values that are written and read again.

A value is written as a legible tree, so its text is read as this tree. What that tree stands for need not be the value: a double
may be read as one of its neighbours, the fields of an object are listed by key, and a tree that nests too deep, or a double too
great, stands for nothing. But where it stands for something, nobody who looks for truth values, whole numbers, texts and lists
of texts can tell it from the value.

- `legible_toTree`, `read?_compact`: the text of a value is read as its tree.
- `ofTree?_mono`: what is read within a limit on depth is read within a greater one.
- `Alike`, `alike_of_ofTree?`: a value and what it is read again as.
- `tight_print`: the text of a value neither begins nor ends with white space.
-/

namespace AdConfirm.Json

open AdConfirm.Text

/-- No character of a number is white space. -/
theorem all_not_blank_of_magnitude {n : List Char} (h : Magnitude n) : n.all (!isBlank ·) = true := by
  have hdigits : ∀ {ds : List Char}, Digits ds → ds.all (!isBlank ·) = true :=
    fun h => List.all_eq_true.2 fun c hc => by simp [not_blank_of_isDigit (h.digits c hc)]
  obtain ⟨hw, hf, hp⟩ := h
  rw [List.all_append, List.all_append, hdigits hw.toDigits, Bool.true_and, Bool.and_eq_true]
  constructor
  · cases hf with
    | absent => rfl
    | decimals h => simpa [isBlank] using hdigits h
  · cases hp with
    | absent => rfl
    | signed hsign h => rcases hsign with rfl | rfl <;> simpa [isBlank] using hdigits h

namespace Number

/-- A number is written as a numeral: perhaps a minus sign, and then what a number can be written as. -/
theorem exists_magnitude_print (n : Number) : ∃ m, Magnitude m ∧ (n.print = m ∨ n.print = '-' :: m) := by
  cases n with
  | natural k => exact ⟨_, magnitude_toDigits _, .inl rfl⟩
  | negative k => exact ⟨_, magnitude_toDigits _, .inr rfl⟩
  | float x =>
    obtain ⟨m, hm, heq⟩ := exists_pointed_render layout x
    refine ⟨m, hm.magnitude, ?_⟩
    rw [print, heq]
    split
    · exact .inr rfl
    · exact .inl rfl

theorem numeral_print (n : Number) : Numeral n.print := by
  obtain ⟨m, hm, heq | heq⟩ := n.exists_magnitude_print
  · exact heq ▸ hm.numeral.1
  · exact heq ▸ hm.numeral.2

theorem tight_print (n : Number) : Tight n.print := by
  obtain ⟨m, hm, heq | heq⟩ := n.exists_magnitude_print
  · exact heq ▸ tight_of_all (all_not_blank_of_magnitude hm)
  · have hminus : ('-' :: m).all (!isBlank ·) = true := by simpa [isBlank] using all_not_blank_of_magnitude hm
    exact heq ▸ tight_of_all hminus

/-- Behind a minus sign there is no whole number without one. -/
theorem ne_natural_of_minus {s : List Char} {m : Number} (h : ofText? ('-' :: s) = some m) (k : UInt64) : m ≠ .natural k := by
  rintro rfl
  have hnegative : (Parts.ofText ('-' :: s)).negative = true := rfl
  simp only [ofText?, hnegative, if_true] at h
  split at h
  · simp at h
  · split at h <;> simp at h

/-- A whole number of 64 bits is read back, and nothing else is read as one. -/
theorem natural_iff_of_print {n m : Number} (h : ofText? n.print = some m) (k : UInt64) : n = .natural k ↔ m = .natural k := by
  cases n with
  | natural j =>
    rw [print, ofText?_toDigits j.toNat j.toNat_lt, UInt64.ofNat_toNat] at h
    rw [← Option.some.inj h]
  | negative j => simpa using ne_natural_of_minus h k
  | float x =>
    obtain ⟨y, rfl⟩ := exists_float_of_render h
    simp

end Number

namespace Value

/-! ## The text of a value -/

mutual

/-- **A value is written as a legible tree.** -/
theorem legible_toTree : ∀ v : Value, Legible v.toTree
  | .null => .null
  | .bool b => .bool b
  | .number n => .number n.numeral_print
  | .text s => .text s
  | .array items => by
    rw [toTree]
    exact .array (legible_toTrees items)
  | .object fields => by
    rw [toTree]
    exact .object (fun f hf => (legible_toFields fields f hf).1) fun f hf => (legible_toFields fields f hf).2

theorem legible_toTrees : ∀ (vs : List Value), ∀ t ∈ toTrees vs, Legible t
  | [] => by simp [toTrees]
  | v :: rest => by simpa [toTrees] using ⟨legible_toTree v, legible_toTrees rest⟩

theorem legible_toFields : ∀ (fields : List (String × Value)), ∀ f ∈ toFields fields, f.1.isSome ∧ Legible f.2
  | [] => by simp [toFields]
  | (k, v) :: rest => by
    rw [toFields]
    exact List.forall_mem_cons.2 ⟨⟨rfl, legible_toTree v⟩, legible_toFields rest⟩

end

/-- The text of a value is read as what its tree stands for. -/
theorem read?_compact (v : Value) : read? v.compact = ofTree? maxDepth v.toTree := by
  rw [read?, compact, Tree.compact, String.toList_ofList, read?_print v.legible_toTree, Option.bind_some]

/-- The text of a value neither begins nor ends with white space. -/
theorem tight_print (v : Value) : Tight v.toTree.print := by
  cases v with
  | null => exact tight_of_all (by decide)
  | bool b => cases b <;> exact tight_of_all (by decide)
  | number n => exact n.tight_print
  | text s => exact tight_enclosed rfl rfl _
  | array items => exact tight_enclosed rfl rfl _
  | object fields => exact tight_enclosed rfl rfl _

/-! ## What it is read again as -/

/-- What is read within a limit on depth is read within a greater one. -/
theorem ofTree?_mono {depth limit : Nat} (hle : depth ≤ limit) {t : Tree} {v : Value} (h : ofTree? depth t = some v) :
    ofTree? limit t = some v := by
  induction depth generalizing limit t v with
  | zero =>
    cases t with
    | array items => simp [ofTree?] at h
    | object fields => simp [ofTree?] at h
    | _ => cases limit <;> exact h
  | succ depth ih =>
    obtain ⟨limit, rfl⟩ : ∃ l, limit = l + 1 := ⟨limit - 1, by omega⟩
    have ih : ∀ {t : Tree} {v : Value}, ofTree? depth t = some v → ofTree? limit t = some v := ih (by omega)
    cases t with
    | array items =>
      rw [ofTree?, Option.map_eq_some_iff] at h ⊢
      obtain ⟨vs, hvs, rfl⟩ := h
      exact ⟨vs, mapM_eq_some_iff.2 ((mapM_eq_some_iff.1 hvs).imp fun _ _ => ih), rfl⟩
    | object fields =>
      rw [ofTree?, Option.map_eq_some_iff] at h ⊢
      obtain ⟨fs, hfs, rfl⟩ := h
      refine ⟨fs, mapM_eq_some_iff.2 ((mapM_eq_some_iff.1 hfs).imp fun f g hg => ?_), rfl⟩
      simp only [Option.bind_eq_bind, Option.pure_def, Option.bind_eq_some_iff] at hg ⊢
      obtain ⟨key, hkey, v, hv, hg⟩ := hg
      exact ⟨key, hkey, v, ih hv, hg⟩
    | _ => exact h

/-- values that nobody who looks for truth values, whole numbers, texts and lists of texts can tell apart -/
inductive Alike : Value → Value → Prop where
  | null : Alike .null .null
  | bool (b : Bool) : Alike (.bool b) (.bool b)
  | number {n m : Number} (h : ∀ k, n = .natural k ↔ m = .natural k) : Alike (.number n) (.number m)
  | text (s : String) : Alike (.text s) (.text s)
  | array {vs ws : List Value} (h : List.Forall₂ (fun v w => v.asText? = w.asText?) vs ws) : Alike (.array vs) (.array ws)
  | object (fs gs : List (String × Value)) : Alike (.object fs) (.object gs)

theorem Alike.asText?_eq {v w : Value} (h : Alike v w) : v.asText? = w.asText? := by
  cases h <;> rfl

theorem toTrees_eq (vs : List Value) : toTrees vs = vs.map toTree := by
  induction vs with
  | nil => rfl
  | cons v rest ih => rw [toTrees, ih, List.map_cons]

/-- **A value and what it is read again as are alike.** -/
theorem alike_of_ofTree? {depth : Nat} {v w : Value} (h : ofTree? depth v.toTree = some w) : Alike v w := by
  cases v with
  | null =>
    rw [toTree, ofTree?] at h
    exact Option.some.inj h ▸ .null
  | bool b =>
    rw [toTree, ofTree?] at h
    exact Option.some.inj h ▸ .bool b
  | number n =>
    rw [toTree, ofTree?, Option.map_eq_some_iff] at h
    obtain ⟨m, hm, rfl⟩ := h
    exact .number (Number.natural_iff_of_print hm)
  | text s =>
    rw [toTree, ofTree?] at h
    exact Option.some.inj h ▸ .text s
  | array items =>
    cases depth with
    | zero => simp [toTree, ofTree?] at h
    | succ depth =>
      rw [toTree, ofTree?, Option.map_eq_some_iff, toTrees_eq] at h
      obtain ⟨ws, hws, rfl⟩ := h
      have hitems := List.forall₂_map_left_iff.1 (mapM_eq_some_iff.1 hws)
      exact .array (hitems.imp fun _ _ hitem => (alike_of_ofTree? hitem).asText?_eq)
  | object fields =>
    cases depth with
    | zero => simp [toTree, ofTree?] at h
    | succ depth =>
      rw [toTree, ofTree?, Option.map_eq_some_iff] at h
      obtain ⟨fs, -, rfl⟩ := h
      exact .object fields _
termination_by depth

end Value

end AdConfirm.Json
