import AdConfirm.Page.Codec
import AdConfirm.Proofs.Json.RoundTrip
import AdConfirm.Proofs.Outcome

/-!
A page that was read is read again from its text.

The text of a page may nest deeper than the text it was read from, since a list of properties that was left out is written as an
empty one. There is room for it nevertheless: an entity, its properties, one of them, its values and the entities in these take
five levels together, so that entities are read at every fifth level only, and what is left of the depth suffices for what an
entity has without any entities in it.

- `legible_page`: a page is written as a legible tree.
- `asLong?_ofInt`: a 64-bit integer is read back.
- `Rereads`: what was read at a depth is read again at this depth; `rereads` by induction on the depth.
- `page_reread`: the text of a page that was read gives the page.
-/

namespace AdConfirm

open AdConfirm.Json

/-! ## Pages are written as legible trees -/

theorem legible_ofInt (n : Int) : Legible (.ofInt n) := by
  unfold Tree.ofInt
  split
  · exact .number (numeral_neg _)
  · exact .number (numeral_toDigits _)

theorem legible_ofOption (s : Option String) : Legible (.ofOption .ofString s) := by
  cases s with
  | none => exact .null
  | some s => exact .text s

mutual

theorem legible_entity : ∀ e : Entity, Legible e.toTree
  | .mk type properties => by
    rw [Entity.toTree]
    refine legible_ofFields ?_
    simpa using ⟨Legible.text type, Legible.array (legible_properties properties)⟩

theorem legible_properties : ∀ (ps : List Property), ∀ t ∈ propertyTrees ps, Legible t
  | [] => by simp [propertyTrees]
  | p :: rest => by simpa [propertyTrees] using ⟨legible_property p, legible_properties rest⟩

theorem legible_property : ∀ p : Property, Legible p.toTree
  | .mk name values => by
    rw [Property.toTree]
    refine legible_ofFields ?_
    simpa using ⟨Legible.text name, legible_values values⟩

theorem legible_values : ∀ v : Values, Legible v.toTree
  | .bools items => by
    rw [Values.toTree]
    exact legible_ofFields (by simpa using legible_map .bool items)
  | .longs items => by
    rw [Values.toTree]
    exact legible_ofFields (by simpa using legible_map (fun n => legible_ofInt n.toInt) items)
  | .strings items => by
    rw [Values.toTree]
    exact legible_ofFields (by simpa using legible_map (f := .ofString) .text items)
  | .entities items => by
    rw [Values.toTree]
    exact legible_ofFields (by simpa using Legible.array (legible_entities items))

theorem legible_entities : ∀ (es : List Entity), ∀ t ∈ entityTrees es, Legible t
  | [] => by simp [entityTrees]
  | e :: rest => by simpa [entityTrees] using ⟨legible_entity e, legible_entities rest⟩

end

theorem legible_page (p : WebPage) : Legible p.toTree := by
  refine legible_ofFields ?_
  simpa using ⟨legible_ofOption p.url, legible_ofOption p.title, Legible.array (legible_entities p.entities)⟩

/-! ## What was read is read again -/

/-- A 64-bit integer is written as a numeral that stands for it. -/
theorem exists_numeral (n : Int64) :
    ∃ s m, Tree.ofInt n.toInt = .number s ∧ Number.ofText? s = some m ∧ m.toInt? = some n.toInt := by
  have hlow := n.le_toInt
  have hhigh := n.toInt_lt
  unfold Tree.ofInt
  split
  · next hneg =>
    have hread := ofText?_neg n.toInt.natAbs (by omega) (by rw [UInt64.size]; omega)
    rw [show -(n.toInt.natAbs : Int) = n.toInt by omega, Int64.ofInt_toInt] at hread
    exact ⟨_, _, rfl, hread, rfl⟩
  · next hpos =>
    have hlt : n.toInt.natAbs < UInt64.size := by rw [UInt64.size]; omega
    refine ⟨_, _, rfl, ofText?_toDigits n.toInt.natAbs hlt, ?_⟩
    rw [Number.toInt?, UInt64.toNat_ofNat_of_lt' hlt, show (n.toInt.natAbs : Int) = n.toInt by omega]

/-- A 64-bit integer is read back. -/
theorem asLong?_ofInt (n : Int64) : (Tree.ofInt n.toInt).asLong? = some n := by
  obtain ⟨s, m, hs, hread, hint⟩ := exists_numeral n
  have hrange : Int64.minValue.toInt ≤ n.toInt ∧ n.toInt ≤ Int64.maxValue.toInt :=
    ⟨Int64.toInt_minValue ▸ n.le_toInt, n.toInt_le⟩
  rw [hs, Tree.asLong?, hread, Option.bind_some, hint, Option.bind_some, if_pos hrange, Int64.ofInt_toInt]

theorem propertyTrees_eq (ps : List Property) : propertyTrees ps = ps.map Property.toTree := by
  induction ps with
  | nil => rfl
  | cons p rest ih => rw [propertyTrees, ih, List.map_cons]

theorem entityTrees_eq (es : List Entity) : entityTrees es = es.map Entity.toTree := by
  induction es with
  | nil => rfl
  | cons e rest ih => rw [entityTrees, ih, List.map_cons]

/-- A list is read again if each item that was read is. -/
theorem mapM_reread {α : Type} {r : Tree → Option α} {w : α → Tree} (h : ∀ t a, r t = some a → r (w a) = some a)
    {ts : List Tree} {as : List α} (hread : ts.mapM r = some as) : (as.map w).mapM r = some as := by
  have hall : ∀ a ∈ as, r (w a) = some (id a) := by
    intro a ha
    obtain ⟨t, -, ht⟩ := exists_of_mem_mapM hread ha
    exact h t a ht
  rw [mapM_map_eq_some hall, List.map_id]

theorem named_of_mem {fields : List (String × Tree)} (hone : (fields.map (·.1)).Nodup) {f : String × Tree} (hf : f ∈ fields) :
    named f.1 (fields.map fun g => (some g.1, g.2)) = [f.2] := by
  induction fields with
  | nil => cases hf
  | cons g rest ih =>
    obtain ⟨hnew, hrest⟩ := List.nodup_cons.1 hone
    rcases List.mem_cons.1 hf with rfl | hf
    · have hnone : ∀ g ∈ rest, g.1 ≠ f.1 := fun g hg heq => hnew (List.mem_map.2 ⟨g, hg, heq⟩)
      have hfilter : (rest.map fun g => ((some g.1, g.2) : Written × Tree)).filter (fun g => g.1 == some f.1) = [] := by
        rw [List.filter_map, List.filter_eq_nil_iff.2 fun g hg => by simpa using hnone g hg, List.map_nil]
      simp [named, hfilter]
    · have hne : g.1 ≠ f.1 := fun heq => hnew (List.mem_map.2 ⟨f, hf, heq.symm⟩)
      simpa [named, hne] using ih hrest hf

/-- A record that is written with all its members has them when it is read. -/
theorem members?_ofFields {fields : List (String × Tree)} {names : List String} (hnames : fields.map (·.1) = names)
    (hone : names.Nodup) : (Tree.ofFields fields).members? names = some (fields.map (some ·.2)) := by
  subst hnames
  have hsingle : ∀ f ∈ fields, single? f.1 (fields.map fun g => (some g.1, g.2)) = some (some f.2) := by
    intro f hf
    rw [single?, named_of_mem hone hf]
  have hkeys : (fields.map fun g => ((some g.1, g.2) : Written × Tree)).all (·.1.isSome) = true := by simp
  rw [Tree.ofFields, Tree.members?, if_pos hkeys]
  exact mapM_map_eq_some hsingle

theorem Entity.ofTree?_toTree (depth : Nat) (type : String) (ps : List Property) :
    Entity.ofTree? (depth + 1) (Entity.mk type ps).toTree =
      (propertiesOfTree? depth (.array (propertyTrees ps))).map (.mk type) := by
  have hmembers : (Entity.mk type ps).toTree.members? ["type", "properties"] =
      some [some (.ofString type), some (.array (propertyTrees ps))] := by
    rw [Entity.toTree]
    exact members?_ofFields rfl (by decide)
  simp only [Entity.ofTree?, hmembers]
  rfl

theorem Property.ofTree?_toTree (depth : Nat) (name : String) (v : Values) :
    Property.ofTree? (depth + 1) (Property.mk name v).toTree = (Values.ofTree? depth v.toTree).map (.mk name) := by
  have hmembers : (Property.mk name v).toTree.members? ["name", "values"] = some [some (.ofString name), some v.toTree] := by
    rw [Property.toTree]
    exact members?_ofFields rfl (by decide)
  simp only [Property.ofTree?, hmembers]
  rfl

theorem WebPage.ofTree?_toTree (depth : Nat) (p : WebPage) :
    WebPage.ofTree? (depth + 1) p.toTree =
      (entitiesOfTree? depth (.array (entityTrees p.entities))).map (⟨p.url, p.title, ·⟩) := by
  have hmembers : p.toTree.members? ["url", "title", "entities"] =
      some [some (.ofOption .ofString p.url), some (.ofOption .ofString p.title), some (.array (entityTrees p.entities))] :=
    members?_ofFields rfl (by decide)
  have htext : ∀ s : Option String, textOrNull? (some (.ofOption .ofString s)) = some s := by
    intro s
    cases s <;> rfl
  simp only [WebPage.ofTree?, hmembers, htext]
  cases entitiesOfTree? depth (.array (entityTrees p.entities)) <;> rfl

/-- what was read at a depth is read again at this depth from what it is written as; the parts of a page take turns, so that every
depth is one of one part only -/
structure Rereads (depth : Nat) : Prop where
  entity : depth % 5 = 0 → ∀ t e, Entity.ofTree? depth t = some e → Entity.ofTree? depth e.toTree = some e
  properties : depth % 5 = 4 → ∀ t ps, propertiesOfTree? depth t = some ps →
    propertiesOfTree? depth (.array (propertyTrees ps)) = some ps
  property : depth % 5 = 3 → ∀ t p, Property.ofTree? depth t = some p → Property.ofTree? depth p.toTree = some p
  values : depth % 5 = 2 → ∀ t v, Values.ofTree? depth t = some v → Values.ofTree? depth v.toTree = some v
  entities : depth % 5 = 1 → ∀ t es, entitiesOfTree? depth t = some es →
    entitiesOfTree? depth (.array (entityTrees es)) = some es

theorem Rereads.entity_succ {depth : Nat} (ih : Rereads depth) (hd : (depth + 1) % 5 = 0) {t : Tree} {e : Entity}
    (h : Entity.ofTree? (depth + 1) t = some e) : Entity.ofTree? (depth + 1) e.toTree = some e := by
  unfold Entity.ofTree? at h
  split at h
  · next type properties hmembers =>
    split at h
    · next s hs =>
      -- the properties were left out, and an empty list of them is written
      obtain rfl := Option.some.inj h
      obtain ⟨room, rfl⟩ : ∃ room, depth = room + 1 := ⟨depth - 1, by omega⟩
      rw [Entity.ofTree?_toTree]
      rfl
    · next s ps hs =>
      obtain ⟨ps', hps', rfl⟩ := Option.map_eq_some_iff.1 h
      rw [Entity.ofTree?_toTree, ih.properties (by omega) _ _ hps', Option.map_some]
    · cases h
  · cases h

theorem Rereads.properties_succ {depth : Nat} (ih : Rereads depth) (hd : (depth + 1) % 5 = 4) {t : Tree} {ps : List Property}
    (h : propertiesOfTree? (depth + 1) t = some ps) :
    propertiesOfTree? (depth + 1) (.array (propertyTrees ps)) = some ps := by
  cases t with
  | array items =>
    rw [propertiesOfTree?] at h ⊢
    rw [propertyTrees_eq]
    exact mapM_reread (ih.property (by omega)) h
  | _ => cases h

theorem Rereads.property_succ {depth : Nat} (ih : Rereads depth) (hd : (depth + 1) % 5 = 3) {t : Tree} {p : Property}
    (h : Property.ofTree? (depth + 1) t = some p) : Property.ofTree? (depth + 1) p.toTree = some p := by
  unfold Property.ofTree? at h
  split at h
  · next name values hmembers =>
    split at h
    · next s hs =>
      obtain ⟨v, hv, rfl⟩ := Option.map_eq_some_iff.1 h
      rw [Property.ofTree?_toTree, ih.values (by omega) _ _ hv, Option.map_some]
    · cases h
  · cases h

theorem Rereads.entities_succ {depth : Nat} (ih : Rereads depth) (hd : (depth + 1) % 5 = 1) {t : Tree} {es : List Entity}
    (h : entitiesOfTree? (depth + 1) t = some es) :
    entitiesOfTree? (depth + 1) (.array (entityTrees es)) = some es := by
  cases t with
  | array items =>
    rw [entitiesOfTree?] at h ⊢
    rw [entityTrees_eq]
    exact mapM_reread (ih.entity (by omega)) h
  | _ => cases h

theorem Rereads.values_succ {depth : Nat} (ih : Rereads depth) (hd : (depth + 1) % 5 = 2) {t : Tree} {v : Values}
    (h : Values.ofTree? (depth + 1) t = some v) : Values.ofTree? (depth + 1) v.toTree = some v := by
  unfold Values.ofTree? at h
  split at h
  · next d kind u hd =>
    obtain rfl : d = depth := by omega
    by_cases hentities : kind = "entities"
    · rw [if_pos hentities] at h
      obtain ⟨es, hes, rfl⟩ := Option.map_eq_some_iff.1 h
      have hagain := ih.entities (by omega) _ _ hes
      simp [Values.toTree, Values.ofTree?, Tree.ofFields, hagain]
    · rw [if_neg hentities] at h
      -- a list of anything else than entities takes a level as well
      split at h
      · next room items =>
        split_ifs at h
        · obtain ⟨bs, hbs, rfl⟩ := Option.map_eq_some_iff.1 h
          have hagain := mapM_reread (w := .bool) (fun _ _ _ => rfl) hbs
          simp [Values.toTree, Values.ofTree?, Tree.ofFields, boolItems?, hagain]
        · obtain ⟨ns, hns, rfl⟩ := Option.map_eq_some_iff.1 h
          have hagain := mapM_reread (w := fun n => .ofInt n.toInt) (fun _ n _ => asLong?_ofInt n) hns
          simp [Values.toTree, Values.ofTree?, Tree.ofFields, hagain]
        · obtain ⟨ss, hss, rfl⟩ := Option.map_eq_some_iff.1 h
          have hagain := mapM_reread (w := .ofString) (fun _ _ _ => rfl) hss
          simp [Values.toTree, Values.ofTree?, Tree.ofFields, hagain]
      · cases h
  · cases h

/-- **What was read at a depth is read again at this depth.** -/
theorem rereads (depth : Nat) : Rereads depth := by
  induction depth with
  | zero => exact ⟨nofun, nofun, nofun, nofun, nofun⟩
  | succ depth ih =>
    exact ⟨fun hd _ _ => ih.entity_succ hd, fun hd _ _ => ih.properties_succ hd, fun hd _ _ => ih.property_succ hd,
      fun hd _ _ => ih.values_succ hd, fun hd _ _ => ih.entities_succ hd⟩

theorem reread_page {t : Tree} {p : WebPage} (h : WebPage.ofTree? Value.maxDepth t = some p) :
    WebPage.ofTree? Value.maxDepth p.toTree = some p := by
  have hentities : entitiesOfTree? 126 (.array (entityTrees p.entities)) = some p.entities := by
    rw [Value.maxDepth, WebPage.ofTree?] at h
    split at h
    · next url title entities hmembers =>
      simp only [Option.bind_eq_bind, Option.bind_eq_some_iff, Option.pure_def] at h
      obtain ⟨url', hurl, title', htitle, h⟩ := h
      cases entities with
      | none =>
        obtain rfl := Option.some.inj h
        rfl
      | some es =>
        obtain ⟨entities', hes, hp⟩ := Option.bind_eq_some_iff.1 h
        obtain rfl := Option.some.inj hp
        exact (rereads 126).entities rfl es entities' hes
    · cases h
  rw [Value.maxDepth, WebPage.ofTree?_toTree, hentities, Option.map_some]

/-- **A page that was read is read again from its text.** Whatever text was accepted as a page, the compact text of the page is
accepted as well, and gives the same page. -/
theorem page_reread (s : String) (p : WebPage) (h : WebPage.read? s = some p) : WebPage.read? p.print = some p := by
  obtain ⟨t, -, hpage⟩ := Option.bind_eq_some_iff.1 h
  have htree : Tree.read? p.print.toList = some p.toTree := by
    rw [WebPage.print, Tree.compact, String.toList_ofList]
    exact read?_print (legible_page p)
  rw [WebPage.read?, htree, Option.bind_some]
  exact reread_page hpage

/-- a page with records as arrays, fields left out or out of order, one that is not known, escapes and a negative number -/
def untidyPage : String :=
  "\x7b\"seen\": [[]], \"entities\": [[\"Offer\", [" ++
    "\x7b\"values\": \x7b\"entities\": [\x7b\"type\": \"\\u0041\\n\"\x7d]\x7d, \"name\": \"a\"\x7d, " ++
    "[\"n\", \x7b\"longs\": [-7, 0]\x7d]]]]\x7d"

def tidyPage : String :=
  "\x7b\"url\":null,\"title\":null,\"entities\":[\x7b\"type\":\"Offer\",\"properties\":[" ++
    "\x7b\"name\":\"a\",\"values\":\x7b\"entities\":[\x7b\"type\":\"A\\n\",\"properties\":[]\x7d]\x7d\x7d," ++
    "\x7b\"name\":\"n\",\"values\":\x7b\"longs\":[-7,0]\x7d\x7d]\x7d]\x7d"

theorem page_reread_untidy :
    ∃ p, WebPage.read? untidyPage = some p ∧ p.print = tidyPage ∧ WebPage.read? p.print = some p := by
  have hprint : (WebPage.read? untidyPage).map WebPage.print = some tidyPage := by decide +kernel
  obtain ⟨p, hp, htext⟩ := Option.map_eq_some_iff.1 hprint
  exact ⟨p, hp, htext, page_reread untidyPage p hp⟩

end AdConfirm
