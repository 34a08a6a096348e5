import AdConfirm.Proofs.Policy.Leaves
import AdConfirm.Yaml.Reader

/-!
What a document stands for lists its fields by key.

A mapping becomes an object through a table, and a tag makes an object of one field; a scalar is a leaf, and so is a sequence. So
every object of a document that is not inside of a sequence lists its fields by key, whatever the document repeats by aliases.

- `bind_eq_some`, `exists_of_mem_mapM_reading`: what is read comes from the parts, one after the other.
- `ordered_underTag`: a tag keeps the order.
- `ordered_of_valueIn`: every node is ordered, at any depth.
- `ordered_of_read?`: a document stands for a value whose objects list their fields by key.
-/

namespace AdConfirm.Yaml

open AdConfirm.Json (Value)

theorem bind_eq_some {α β : Type} {x : Reading α} {f : α → Reading β} {left rest : Nat} {b : β} :
    (x >>= f) left = some (b, rest) ↔ ∃ a mid, x left = some (a, mid) ∧ f a mid = some (b, rest) := by
  constructor
  · intro h
    obtain ⟨⟨a, mid⟩, ha, hb⟩ := Option.bind_eq_some_iff.1 h
    exact ⟨a, mid, ha, hb⟩
  · rintro ⟨a, mid, ha, hb⟩
    exact Option.bind_eq_some_iff.2 ⟨(a, mid), ha, hb⟩

theorem pure_eq_some {α : Type} {a b : α} {left rest : Nat} (h : (pure a : Reading α) left = some (b, rest)) : a = b :=
  (Prod.mk.inj (Option.some.inj h)).1

theorem ordered_array (items : List Value) : (Value.array items).Ordered := .leaf fun _ hv => nomatch hv

theorem lift_eq_some {α : Type} {x : Option α} {a : α} {left rest : Nat}
    (h : (liftM x : Reading α) left = some (a, rest)) : x = some a := by
  obtain ⟨b, hb, hpure⟩ := Option.bind_eq_some_iff.1 h
  obtain rfl := (Prod.mk.inj (Option.some.inj hpure)).1
  exact hb

/-- What reading the parts of a collection gives comes from the parts, each read with as many aliases as were left. -/
theorem exists_of_mem_mapM_reading {α β : Type} {f : α → Reading β} {as : List α} {bs : List β} {left rest : Nat}
    (h : as.mapM f left = some (bs, rest)) {b : β} (hb : b ∈ bs) : ∃ a ∈ as, ∃ l r, f a l = some (b, r) := by
  induction as generalizing bs left rest with
  | nil =>
    obtain rfl := pure_eq_some h
    cases hb
  | cons a as ih =>
    rw [List.mapM_cons, bind_eq_some] at h
    obtain ⟨c, mid, hc, h⟩ := h
    obtain ⟨cs, mid', hcs, h⟩ := bind_eq_some.1 h
    obtain rfl := pure_eq_some h
    rcases List.mem_cons.1 hb with rfl | hb
    · exact ⟨a, List.mem_cons_self, left, mid, hc⟩
    · obtain ⟨a', ha', l, r, hf⟩ := ih hcs hb
      exact ⟨a', List.mem_cons_of_mem a ha', l, r, hf⟩

namespace Node

/-- A tag makes an object of one field at most, so what was ordered stays so. -/
theorem ordered_underTag {v : Value} (h : v.Ordered) (p : Properties) : (underTag p v).Ordered := by
  have hsingle : ∀ name : String, (Value.object [(name, v)]).Ordered := by
    intro name
    refine .object (List.pairwise_singleton _ _) fun f hf => ?_
    obtain rfl := List.mem_singleton.1 hf
    exact h
  unfold underTag
  split
  · exact h
  · exact hsingle _
  · exact hsingle _

theorem ordered_scalarValue? {p : Properties} {text : String} {isPlain : Bool} {v : Value}
    (h : scalarValue? p text isPlain = some v) : v.Ordered := by
  obtain ⟨s, -, rfl⟩ := Option.map_eq_some_iff.1 h
  refine ordered_underTag (.leaf fun fields hv => ?_) p
  cases s <;> cases hv

/-- Whatever a node stands for, its objects list their fields by key. -/
theorem ordered_of_valueIn {d : Numbered} {depth : Nat} {n : Node Nat} {v : Value} {left rest : Nat}
    (h : valueIn d depth n left = some (v, rest)) : v.Ordered := by
  induction depth generalizing n v left rest with
  | zero =>
    rw [valueIn, bind_eq_some] at h
    obtain ⟨m, mid, -, h⟩ := h
    cases m with
    | scalar p text isPlain => exact ordered_scalarValue? (lift_eq_some h)
    | _ => cases h
  | succ depth ih =>
    rw [valueIn, bind_eq_some] at h
    obtain ⟨m, mid, -, h⟩ := h
    cases m with
    | scalar p text isPlain => exact ordered_scalarValue? (lift_eq_some h)
    | sequence p items =>
      obtain ⟨vs, mid', -, h⟩ := bind_eq_some.1 h
      obtain rfl := pure_eq_some h
      exact ordered_underTag (ordered_array vs) p
    | mapping p fields =>
      obtain ⟨read, mid', hread, h⟩ := bind_eq_some.1 h
      split at h
      · obtain rfl := pure_eq_some h
        refine ordered_underTag (.object (Table.ofList (read.map (·.2))).sorted fun f hf => ?_) p
        obtain ⟨g, hg, rfl⟩ := List.mem_map.1 (Table.mem_of_mem_ofList hf)
        obtain ⟨a, -, l, r, ha⟩ := exists_of_mem_mapM_reading hread hg
        -- the field was read as a key, and then a value within the depth that is left
        obtain ⟨k, mid₁, -, ha⟩ := bind_eq_some.1 ha
        obtain ⟨w, mid₂, hw, ha⟩ := bind_eq_some.1 ha
        obtain rfl := pure_eq_some ha
        exact ih hw
      · cases h
    | «alias» target => cases h

end Node

/-- A document stands for a value whose objects list their fields by key. -/
theorem ordered_of_read? {s : String} {v : Value} (h : read? s = some v) : v.Ordered := by
  obtain ⟨toks, -, h⟩ := Option.bind_eq_some_iff.1 h
  obtain ⟨n, -, h⟩ := Option.bind_eq_some_iff.1 h
  obtain ⟨d, -, h⟩ := Option.bind_eq_some_iff.1 h
  obtain ⟨⟨w, rest⟩, hw, h⟩ := Option.bind_eq_some_iff.1 h
  obtain rfl := Option.some.inj h
  exact Node.ordered_of_valueIn hw

end AdConfirm.Yaml
