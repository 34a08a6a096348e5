import AdConfirm.Proofs.Ad.Page

/-!
Why a page is rejected.

The scan goes through the products of a page, through the names of a product before its creatives, through the creatives, and
of each through its type before its attributes. What it may come upon is said here one defect at a time, each with all that
has to be in good order before it. A page is rejected for the defect that is there, and there is but one.

- `Property.Defect`, `Entity.AdDefect`, `Entity.ProductDefect`, `WebPage.FirstDefect`: the defects, from the inside out.
- `InOrder.iff_read`: a draft is read from attributes that are known, unrepeated and of their kinds, and from no others.
- `missing_eq_unnamed`: what a draft misses is what no property was named by.
- `readPage_rejects`: which pages are rejected, and for which defect.
-/

namespace AdConfirm

/-! ## The defects -/

/-- properties named by different attributes, each with a value of its kind -/
structure InOrder (ps : List Property) : Prop where
  nodup : (ps.map Property.name).Nodup
  known : ∀ q ∈ ps, ∃ a : Attribute, q.name = a.name ∧ a.shape.Admits q.values

/-- the attributes that no property is named by, in their order -/
def unnamed (ps : List Property) : List Attribute := Attribute.all.filter fun a => a.name ∉ ps.map Property.name

/-- what is wrong with an ad's property that comes after those -/
inductive Property.Defect (before : List Property) (q : Property) : MarkupError → Prop where
  | unknown (h : ∀ a : Attribute, q.name ≠ a.name) : Defect before q (.unknownAttribute q.name)
  | repeated (a : Attribute) (ha : q.name = a.name) (h : q.name ∈ before.map Property.name) :
      Defect before q (.repeatedAttribute a)
  | unreadable (a : Attribute) (ha : q.name = a.name) (hnew : q.name ∉ before.map Property.name)
      (h : ¬ a.shape.Admits q.values) : Defect before q (.unreadableValue a)

/-- what is wrong first with a creative -/
inductive Entity.AdDefect (e : Entity) : MarkupError → Prop where
  | wrongType (h : e.type ≠ adType) : AdDefect e (.wrongAdType e.type)
  | property (ht : e.type = adType) {before after : List Property} {q : Property} {err : MarkupError}
      (hsplit : e.properties = before ++ q :: after) (hbefore : InOrder before) (h : q.Defect before err) : AdDefect e err
  | missing (ht : e.type = adType) (hall : InOrder e.properties) (h : unnamed e.properties ≠ []) :
      AdDefect e (.missingAttributes (unnamed e.properties))

/-- properties as a product may have them: context, type, and creatives not more than once -/
structure NamesInOrder (ps : List Property) : Prop where
  known : ∀ q ∈ ps, q.name = contextProperty ∨ q.name = typeProperty ∨ q.name = creativesProperty
  once : (ps.filter fun q => q.name = creativesProperty).length ≤ 1

/-- the product has these values for its creatives, once, and besides them nothing but context and type -/
structure Entity.Holds (e : Entity) (vs : Values) : Prop where
  known : ∀ q ∈ e.properties, q.name = contextProperty ∨ q.name = typeProperty ∨ q.name = creativesProperty
  once : (e.properties.filter fun q => q.name = creativesProperty).map Property.values = [vs]

/-- the scan of the product comes to the creative: those before it are ads in good order -/
def Entity.ComesTo (e c : Entity) : Prop :=
  ∃ before after, e.Holds (.entities (before ++ c :: after)) ∧ ∀ b ∈ before, b.IsAd

/-- what is wrong first with a product -/
inductive Entity.ProductDefect (e : Entity) : MarkupError → Prop where
  | unexpected {before after : List Property} {q : Property} (hsplit : e.properties = before ++ q :: after)
      (hbefore : NamesInOrder before)
      (h : q.name ≠ contextProperty ∧ q.name ≠ typeProperty ∧ q.name ≠ creativesProperty) :
      ProductDefect e (.unexpectedProperty q.name)
  | repeated {before after : List Property} {q : Property} (hsplit : e.properties = before ++ q :: after)
      (hbefore : NamesInOrder before) (hq : q.name = creativesProperty)
      (h : creativesProperty ∈ before.map Property.name) : ProductDefect e .repeatedCreatives
  | notEntities {vs : Values} (hvs : e.Holds vs) (h : ∀ es, vs ≠ .entities es) :
      ProductDefect e (.creativesNotEntities vs.kind)
  | none (h : e.Holds (.entities [])) : ProductDefect e .noCreatives
  | creative {c : Entity} (hc : e.ComesTo c) {err : MarkupError} (h : c.AdDefect err) : ProductDefect e err

/-- the scan of the page comes to the product: those before it are without creatives and in good order -/
def WebPage.ComesTo (p : WebPage) (e : Entity) : Prop :=
  ∃ before after, p.entities = before ++ e :: after ∧ e.type = productType ∧ ∀ f ∈ before, f.type = productType → f.IsPlain

/-- what is wrong first with a page -/
def WebPage.FirstDefect (p : WebPage) (err : MarkupError) : Prop := ∃ e, p.ComesTo e ∧ e.ProductDefect err

/-- the first creative of the page that is not an ad in good order -/
def WebPage.FirstBadCreative (p : WebPage) (c : Entity) : Prop := (∃ e, p.ComesTo e ∧ e.ComesTo c) ∧ ¬ c.IsAd

/-! ## Ads -/

/-- What is read is in good order, and what is in good order is read. -/
theorem InOrder.iff_read {ps : List Property} : InOrder ps ↔ ∃ d, ps.foldlM Draft.addProperty .empty = .ok d := by
  constructor
  · intro h
    refine Draft.exists_read h.nodup fun q hq => ?_
    obtain ⟨a, ha, hadmits⟩ := h.known q hq
    obtain ⟨v, hv⟩ := a.shape.admits_iff.1 hadmits
    exact ⟨a, v, ha, hv⟩
  · rintro ⟨d, hd⟩
    have hholds := Draft.holds_of_read hd
    refine ⟨hholds.nodup, fun q hq => ?_⟩
    obtain ⟨a, v, ha, hv⟩ := hholds.known q hq
    exact ⟨a, ha, a.shape.admits_iff.2 ⟨v, hv⟩⟩

/-- A draft has an attribute exactly if a property was named by it. -/
theorem Draft.Holds.isSome_iff {d : Draft} {ps : List Property} (h : d.Holds ps) (a : Attribute) :
    (d a).isSome ↔ a.name ∈ ps.map Property.name := by
  rw [Option.isSome_iff_exists, List.mem_map]
  constructor
  · rintro ⟨v, hv⟩
    obtain ⟨q, hq, hqa, -⟩ := (h.value a v).1 hv
    exact ⟨q, hq, hqa⟩
  · rintro ⟨q, hq, hqa⟩
    obtain ⟨b, v, hb, hv⟩ := h.known q hq
    obtain rfl := Attribute.name_injective (hqa.symm.trans hb)
    exact ⟨v, (h.value a v).2 ⟨q, hq, hqa, hv⟩⟩

/-- What a draft misses is what no property was named by. -/
theorem missing_eq_unnamed {d : Draft} {ps : List Property} (h : d.Holds ps) : d.missing = unnamed ps := by
  refine List.filter_congr fun a _ => ?_
  have hsome := h.isSome_iff a
  cases hd : d a <;> simp_all

theorem unnamed_eq_nil_iff {ps : List Property} : unnamed ps = [] ↔ ∀ a : Attribute, a.name ∈ ps.map Property.name := by
  rw [unnamed, List.filter_eq_nil_iff]
  constructor
  · intro h a
    simpa using h a (Attribute.mem_all a)
  · intro h a _
    simpa using h a

/-- A draft is no record exactly if something is missing. -/
theorem record?_eq_none_iff {d : Draft} {ps : List Property} (h : d.Holds ps) : d.record? = none ↔ unnamed ps ≠ [] := by
  rw [Ne, unnamed_eq_nil_iff, ← not_iff_not, not_not, ← ne_eq, Option.ne_none_iff_exists']
  constructor
  · rintro ⟨r, hr⟩ a
    exact (h.isSome_iff a).1 (by rw [Draft.record?_eq_some_iff.1 hr a]; rfl)
  · intro hall
    exact Draft.exists_record fun a => Option.isSome_iff_exists.1 ((h.isSome_iff a).2 (hall a))

/-- A property fails by its defect, after those that were read. -/
theorem addProperty_eq_error_iff {d : Draft} {ps : List Property} (h : d.Holds ps) {q : Property} {err : MarkupError} :
    d.addProperty q = .error err ↔ q.Defect ps err := by
  have hadmits : ∀ a : Attribute, a.shape.read? q.values = none ↔ ¬ a.shape.Admits q.values := by
    intro a
    simp only [Shape.admits_iff, ← Shape.read?_eq_some_iff, ← Option.ne_none_iff_exists', ne_eq, not_not]
  unfold Draft.addProperty
  constructor
  · intro herr
    split at herr
    · next hnone =>
      cases herr
      refine .unknown fun a ha => ?_
      rw [Attribute.ofName?_eq_some_iff.2 ha] at hnone
      cases hnone
    · next a ha =>
      have hname := Attribute.ofName?_eq_some_iff.1 ha
      have hseen := h.isSome_iff a
      rw [← hname] at hseen
      split at herr
      · next hsome =>
        cases herr
        exact .repeated a hname (hseen.1 hsome)
      · next hfree =>
        split at herr
        · next hread =>
          cases herr
          exact .unreadable a hname (fun hmem => hfree (hseen.2 hmem)) ((hadmits a).1 hread)
        · cases herr
  · intro hdefect
    cases hdefect with
    | unknown hne =>
      have hnone : Attribute.ofName? q.name = none :=
        Option.eq_none_iff_forall_ne_some.2 fun a ha => hne a (Attribute.ofName?_eq_some_iff.1 ha)
      simp [hnone]
    | repeated a ha hmem =>
      have hsome : (d a).isSome := (h.isSome_iff a).2 (ha ▸ hmem)
      simp [Attribute.ofName?_eq_some_iff.2 ha, hsome]
    | unreadable a ha hnew hvalue =>
      have hfree : ¬ (d a).isSome := fun hsome => hnew (ha ▸ (h.isSome_iff a).1 hsome)
      simp [Attribute.ofName?_eq_some_iff.2 ha, hfree, (hadmits a).2 hvalue]

theorem foldlM_addProperty_eq_error_iff {ps : List Property} {err : MarkupError} :
    ps.foldlM Draft.addProperty .empty = .error err ↔
      ∃ before q after, ps = before ++ q :: after ∧ InOrder before ∧ q.Defect before err := by
  rw [foldlM_eq_error_iff]
  constructor
  · rintro ⟨before, q, after, d, hsplit, hd, hq⟩
    exact ⟨before, q, after, hsplit, InOrder.iff_read.2 ⟨d, hd⟩, (addProperty_eq_error_iff (Draft.holds_of_read hd)).1 hq⟩
  · rintro ⟨before, q, after, hsplit, hbefore, hq⟩
    obtain ⟨d, hd⟩ := InOrder.iff_read.1 hbefore
    exact ⟨before, q, after, d, hsplit, hd, (addProperty_eq_error_iff (Draft.holds_of_read hd)).2 hq⟩

/-- The properties of an ad are rejected for the first that has a defect, or for the attributes that are missing. -/
theorem readAd_eq_error_iff {ps : List Property} {err : MarkupError} :
    readAd ps = .error err ↔
      (∃ before q after, ps = before ++ q :: after ∧ InOrder before ∧ q.Defect before err) ∨
        InOrder ps ∧ unnamed ps ≠ [] ∧ err = .missingAttributes (unnamed ps) := by
  unfold readAd
  rw [bind_eq_error, foldlM_addProperty_eq_error_iff]
  refine or_congr_right ?_
  constructor
  · rintro ⟨d, hd, herr⟩
    have hholds := Draft.holds_of_read hd
    cases hr : d.record? with
    | some r =>
      rw [hr] at herr
      cases herr
    | none =>
      rw [hr] at herr
      cases herr
      exact ⟨InOrder.iff_read.2 ⟨d, hd⟩, (record?_eq_none_iff hholds).1 hr, by rw [missing_eq_unnamed hholds]⟩
  · rintro ⟨hall, hne, rfl⟩
    obtain ⟨d, hd⟩ := InOrder.iff_read.1 hall
    have hholds := Draft.holds_of_read hd
    refine ⟨d, hd, ?_⟩
    rw [(record?_eq_none_iff hholds).2 hne, ← missing_eq_unnamed hholds]
    rfl

/-- A creative is rejected for the first defect of it. -/
theorem addCreative_eq_error_iff {ads : AdMap} {c : Entity} {err : MarkupError} :
    addCreative ads c = .error err ↔ c.AdDefect err := by
  unfold addCreative
  by_cases ht : c.type = adType
  · have hmap : (readAd c.properties).map (fun r => ads.insert r.creativeInstanceId r) = .error err ↔
        readAd c.properties = .error err := by
      cases readAd c.properties <;> simp [Except.map]
    rw [if_neg (not_not.2 ht), hmap, readAd_eq_error_iff]
    constructor
    · rintro (⟨before, q, after, hsplit, hbefore, hq⟩ | ⟨hall, hne, rfl⟩)
      · exact .property ht hsplit hbefore hq
      · exact .missing ht hall hne
    · intro hdefect
      cases hdefect with
      | wrongType h => exact absurd ht h
      | property _ hsplit hbefore hq => exact .inl ⟨_, _, _, hsplit, hbefore, hq⟩
      | missing _ hall hne => exact .inr ⟨hall, hne, rfl⟩
  · rw [if_pos ht]
    constructor
    · rintro ⟨⟩
      exact .wrongType ht
    · intro hdefect
      cases hdefect with
      | wrongType => rfl
      | property h => exact absurd h ht
      | missing h => exact absurd h ht

/-- Exactly the ads in good order have no defect. -/
theorem exists_adDefect_iff {c : Entity} : (∃ err, c.AdDefect err) ↔ ¬ c.IsAd := by
  have hread : ∀ err, c.AdDefect err ↔ addCreative Table.empty c = .error err := fun _ => addCreative_eq_error_iff.symm
  simp only [hread]
  constructor
  · rintro ⟨err, herr⟩ hc
    obtain ⟨r, hr⟩ := exists_readAd hc.complete
    rw [addCreative_eq_ok_iff.2 ⟨hc, r, (complete_of_readAd hr).2, rfl⟩] at herr
    cases herr
  · intro hc
    cases hread : addCreative Table.empty c with
    | error err => exact ⟨err, rfl⟩
    | ok ads => exact absurd (addCreative_eq_ok_iff.1 hread).1 hc

/-- Creatives are rejected for the first that is no ad in good order. -/
theorem foldlM_addCreative_eq_error_iff {es : List Entity} {err : MarkupError} :
    es.foldlM addCreative Table.empty = .error err ↔
      ∃ before c after, es = before ++ c :: after ∧ (∀ b ∈ before, b.IsAd) ∧ c.AdDefect err := by
  rw [foldlM_eq_error_iff]
  constructor
  · rintro ⟨before, c, after, ads, hsplit, hads, hc⟩
    exact ⟨before, c, after, hsplit, (lists_of_read hads).1, addCreative_eq_error_iff.1 hc⟩
  · rintro ⟨before, c, after, hsplit, hbefore, hc⟩
    obtain ⟨ads, hads⟩ := exists_read_of_ads hbefore Table.empty
    exact ⟨before, c, after, ads, hsplit, hads, addCreative_eq_error_iff.2 hc⟩

/-- Values are rejected as creatives for not being entities, for being none, or for the first that is no ad. -/
theorem readCreatives_eq_error_iff {vs : Values} {err : MarkupError} :
    readCreatives vs = .error err ↔
      ((∀ es, vs ≠ .entities es) ∧ err = .creativesNotEntities vs.kind) ∨ (vs = .entities [] ∧ err = .noCreatives) ∨
        ∃ before c after, vs = .entities (before ++ c :: after) ∧ (∀ b ∈ before, b.IsAd) ∧ c.AdDefect err := by
  cases vs with
  | entities es =>
    cases es with
    | nil => simp [readCreatives, eq_comm]
    | cons e es =>
      rw [readCreatives, foldlM_addCreative_eq_error_iff]
      · simp
      · simp
  | bools items => simp [readCreatives, eq_comm]
  | longs items => simp [readCreatives, eq_comm]
  | strings items => simp [readCreatives, eq_comm]

/-! ## Products -/

/-- The names of a product are in good order exactly if the scan of them comes to an end. -/
theorem NamesInOrder.iff_read {ps : List Property} :
    NamesInOrder ps ↔ ∃ found, ps.foldlM addProductProperty none = .ok found := by
  simp only [foldlM_addProductProperty, Option.toList_none, List.nil_append]
  constructor
  · rintro ⟨hknown, honce⟩
    rcases hf : ps.filter fun q => q.name = creativesProperty with _ | ⟨q, rest⟩
    · exact ⟨none, hknown, by rw [hf]; rfl⟩
    · obtain rfl : rest = [] := by
        rw [hf] at honce
        simpa using honce
      exact ⟨some q.values, hknown, by rw [hf]; rfl⟩
  · rintro ⟨found, hknown, hfound⟩
    refine ⟨hknown, ?_⟩
    rw [← List.length_map (f := Property.values), hfound]
    cases found <;> simp

/-- What the scan of a product found are its creatives. -/
theorem found_iff_holds {e : Entity} {vs : Values} : creatives? e.properties = .ok (some vs) ↔ e.Holds vs :=
  creatives?_eq_some_iff.trans ⟨fun ⟨hknown, honce⟩ => ⟨hknown, honce⟩, fun h => ⟨h.known, h.once⟩⟩

/-- Creatives are found in the names scanned so far exactly if one of them is theirs. -/
theorem found_isSome_iff {ps : List Property} {found : Option Values}
    (h : ps.foldlM addProductProperty none = .ok found) : found ≠ none ↔ creativesProperty ∈ ps.map Property.name := by
  have hfound := (foldlM_addProductProperty.1 h).2
  rw [Option.toList_none, List.nil_append] at hfound
  have hmem : creativesProperty ∈ ps.map Property.name ↔ (ps.filter fun q => q.name = creativesProperty) ≠ [] := by
    simp [List.filter_eq_nil_iff]
  rw [hmem, Ne, Ne, ← List.map_eq_nil_iff (f := Property.values), hfound]
  cases found <;> simp

theorem addProductProperty_eq_error_iff {found : Option Values} {q : Property} {err : MarkupError} :
    addProductProperty found q = .error err ↔
      (q.name ≠ contextProperty ∧ q.name ≠ typeProperty ∧ q.name ≠ creativesProperty) ∧ err = .unexpectedProperty q.name ∨
        q.name = creativesProperty ∧ found ≠ none ∧ err = .repeatedCreatives := by
  unfold addProductProperty
  split
  · next h =>
    have hne := ne_creatives_of_plain h
    constructor
    · rintro ⟨⟩
    · rintro (⟨⟨hcontext, htype, -⟩, -⟩ | ⟨hq, -⟩)
      · exact absurd h (not_or.2 ⟨hcontext, htype⟩)
      · exact absurd hq hne
  · next h =>
    split
    · next hq =>
      cases found with
      | none => simp [hq]
      | some vs => simp [hq, eq_comm]
    · next hq =>
      obtain ⟨hcontext, htype⟩ := not_or.1 h
      simp [hcontext, htype, hq, eq_comm]

/-- The names of a product are rejected for the first that it may not have, or not have again. -/
theorem creatives?_eq_error_iff {ps : List Property} {err : MarkupError} :
    creatives? ps = .error err ↔ ∃ before q after, ps = before ++ q :: after ∧ NamesInOrder before ∧
      ((q.name ≠ contextProperty ∧ q.name ≠ typeProperty ∧ q.name ≠ creativesProperty) ∧ err = .unexpectedProperty q.name ∨
        q.name = creativesProperty ∧ creativesProperty ∈ before.map Property.name ∧ err = .repeatedCreatives) := by
  rw [creatives?, foldlM_eq_error_iff]
  constructor
  · rintro ⟨before, q, after, found, hsplit, hfound, hq⟩
    rw [addProductProperty_eq_error_iff, found_isSome_iff hfound] at hq
    exact ⟨before, q, after, hsplit, NamesInOrder.iff_read.2 ⟨found, hfound⟩, hq⟩
  · rintro ⟨before, q, after, hsplit, hbefore, hq⟩
    obtain ⟨found, hfound⟩ := NamesInOrder.iff_read.1 hbefore
    refine ⟨before, q, after, found, hsplit, hfound, ?_⟩
    rwa [addProductProperty_eq_error_iff, found_isSome_iff hfound]

/-- A product is rejected for the first defect of it. -/
theorem readProducts_eq_error_iff_of_single {e : Entity} {err : MarkupError} :
    readProducts [e] = .error err ↔ e.ProductDefect err := by
  rw [readProducts, bind_eq_error, creatives?_eq_error_iff]
  constructor
  · rintro (⟨before, q, after, hsplit, hbefore, ⟨h, rfl⟩ | ⟨hq, h, rfl⟩⟩ | ⟨found, hfound, herr⟩)
    · exact .unexpected hsplit hbefore h
    · exact .repeated hsplit hbefore hq h
    · cases found with
      | none => cases herr
      | some vs =>
        have hholds := found_iff_holds.1 hfound
        rcases readCreatives_eq_error_iff.1 herr with ⟨h, rfl⟩ | ⟨rfl, rfl⟩ | ⟨before, c, after, rfl, hbefore, hc⟩
        · exact .notEntities hholds h
        · exact .none hholds
        · exact .creative ⟨before, after, hholds, hbefore⟩ hc
  · intro h
    cases h with
    | unexpected hsplit hbefore h => exact .inl ⟨_, _, _, hsplit, hbefore, .inl ⟨h, rfl⟩⟩
    | repeated hsplit hbefore hq h => exact .inl ⟨_, _, _, hsplit, hbefore, .inr ⟨hq, h, rfl⟩⟩
    | notEntities hvs h =>
      exact .inr ⟨_, found_iff_holds.2 hvs, readCreatives_eq_error_iff.2 (.inl ⟨h, rfl⟩)⟩
    | none h => exact .inr ⟨_, found_iff_holds.2 h, rfl⟩
    | creative hc h =>
      obtain ⟨before, after, hvs, hbefore⟩ := hc
      exact .inr ⟨_, found_iff_holds.2 hvs, readCreatives_eq_error_iff.2 (.inr (.inr ⟨before, _, after, rfl, hbefore, h⟩))⟩

/-- The scan ends with the first product that is not without creatives in good order. -/
theorem readProducts_cons_of_not_plain {e : Entity} (h : ¬ e.IsPlain) (rest : List Entity) :
    readProducts (e :: rest) = readProducts [e] := by
  rw [readProducts, readProducts]
  cases hfound : creatives? e.properties with
  | error err => rfl
  | ok found =>
    cases found with
    | none => exact absurd (creatives?_eq_none_iff.1 hfound) h
    | some vs => rfl

theorem readProducts_cons_of_isPlain {e : Entity} (h : e.IsPlain) (rest : List Entity) :
    readProducts (e :: rest) = readProducts rest := by
  rw [readProducts, creatives?_eq_none_iff.2 h]
  rfl

theorem readProducts_eq_error_iff {es : List Entity} {err : MarkupError} :
    readProducts es = .error err ↔
      ∃ before e after, es = before ++ e :: after ∧ (∀ f ∈ before, f.IsPlain) ∧ e.ProductDefect err := by
  constructor
  · intro h
    induction es with
    | nil => cases h
    | cons e es ih =>
      by_cases hplain : e.IsPlain
      · rw [readProducts_cons_of_isPlain hplain] at h
        obtain ⟨before, e', after, rfl, hbefore, he'⟩ := ih h
        exact ⟨e :: before, e', after, rfl, List.forall_mem_cons.2 ⟨hplain, hbefore⟩, he'⟩
      · rw [readProducts_cons_of_not_plain hplain] at h
        exact ⟨[], e, es, rfl, by simp, readProducts_eq_error_iff_of_single.1 h⟩
  · rintro ⟨before, e, after, rfl, hbefore, he⟩
    induction before with
    | nil =>
      have hsingle := readProducts_eq_error_iff_of_single.2 he
      have hplain : ¬ e.IsPlain := by
        intro hplain
        rw [readProducts_cons_of_isPlain hplain] at hsingle
        cases hsingle
      rw [List.nil_append, readProducts_cons_of_not_plain hplain, hsingle]
    | cons f before ih =>
      obtain ⟨hf, hbefore⟩ := List.forall_mem_cons.1 hbefore
      rw [List.cons_append, readProducts_cons_of_isPlain hf]
      exact ih hbefore

/-! ## Pages -/

theorem readPage_eq_error_iff {p : WebPage} {err : MarkupError} : readPage p = .error err ↔ p.FirstDefect err := by
  rw [readPage, readProducts_eq_error_iff]
  constructor
  · rintro ⟨before, e, after, hsplit, hbefore, he⟩
    obtain ⟨l₁, l₂, hl, rfl, hl₂⟩ := List.filter_eq_append_iff.1 hsplit
    obtain ⟨l₃, l₄, rfl, hl₃, he', -⟩ := List.filter_eq_cons_iff.1 hl₂
    refine ⟨e, ⟨l₁ ++ l₃, l₄, by rw [hl, List.append_assoc], by simpa using he', fun f hf hproduct => ?_⟩, he⟩
    rcases List.mem_append.1 hf with hf | hf
    · exact hbefore f (List.mem_filter.2 ⟨hf, by simpa using hproduct⟩)
    · exact absurd hproduct (by simpa using hl₃ f hf)
  · rintro ⟨e, ⟨before, after, hsplit, hproduct, hbefore⟩, he⟩
    refine ⟨before.filter fun f => f.type = productType, e, after.filter fun f => f.type = productType, ?_, ?_, he⟩
    · rw [hsplit, List.filter_append, List.filter_cons_of_pos (by simpa using hproduct)]
    · intro f hf
      obtain ⟨hf, hproduct⟩ := List.mem_filter.1 hf
      exact hbefore f hf (by simpa using hproduct)

/-- What misses attributes is of the type of an ad and has nothing else wrong with it. -/
theorem adDefect_missing_iff {c : Entity} {missing : List Attribute} :
    c.AdDefect (.missingAttributes missing) ↔
      c.type = adType ∧ InOrder c.properties ∧ missing ≠ [] ∧ missing = unnamed c.properties := by
  constructor
  · intro h
    cases h with
    | property _ _ _ h => nomatch h
    | missing htype horder hne => exact ⟨htype, horder, hne, rfl⟩
  · rintro ⟨htype, horder, hne, rfl⟩
    exact .missing htype horder hne

/-- Attributes are missing of a page exactly if the first creative of it that is no ad in good order misses them. -/
theorem readPage_missing_iff {p : WebPage} {missing : List Attribute} :
    readPage p = .error (.missingAttributes missing) ↔
      ∃ c, p.FirstBadCreative c ∧ c.AdDefect (.missingAttributes missing) := by
  rw [readPage_eq_error_iff]
  constructor
  · rintro ⟨e, he, hdefect⟩
    cases hdefect with
    | creative hc h => exact ⟨_, ⟨⟨e, he, hc⟩, exists_adDefect_iff.1 ⟨_, h⟩⟩, h⟩
  · rintro ⟨c, ⟨⟨e, he, hc⟩, -⟩, h⟩
    exact ⟨e, he, .creative hc h⟩

/-- **A page is rejected for its first defect.** Whatever the document and the error: the page is rejected with it exactly
if it is the defect that the scan comes upon first, with everything scanned before in good order. Some attributes are reported
missing exactly if the first creative that is no ad in good order has the type of one, and names known attributes only, none
of them twice and each with a value of its kind, but not all of them; and then there are some, and their names are, in the
order of all, those that no property of this creative has. -/
theorem readPage_rejects (p : WebPage) :
    (∀ err, readPage p = .error err ↔ p.FirstDefect err) ∧
      ((∃ missing, readPage p = .error (.missingAttributes missing)) ↔
        ∃ c, p.FirstBadCreative c ∧ c.type = adType ∧ InOrder c.properties ∧
          ∃ a : Attribute, a.name ∉ c.properties.map Property.name) ∧
      ∀ missing c, readPage p = .error (.missingAttributes missing) → p.FirstBadCreative c →
        missing ≠ [] ∧
          missing.map Attribute.name =
            (Attribute.all.map Attribute.name).filter fun name => name ∉ c.properties.map Property.name := by
  have hunnamed : ∀ ps, unnamed ps ≠ [] ↔ ∃ a : Attribute, a.name ∉ ps.map Property.name := by
    intro ps
    rw [Ne, unnamed_eq_nil_iff, not_forall]
  refine ⟨fun err => readPage_eq_error_iff, ?_, fun missing c hpage hbad => ?_⟩
  · simp only [readPage_missing_iff, adDefect_missing_iff, ← hunnamed]
    constructor
    · rintro ⟨missing, c, hbad, htype, horder, hne, rfl⟩
      exact ⟨c, hbad, htype, horder, hne⟩
    · rintro ⟨c, hbad, htype, horder, hne⟩
      exact ⟨unnamed c.properties, c, hbad, htype, horder, hne, rfl⟩
  · -- the creative has a defect, the page is rejected for it, and so it is this one
    obtain ⟨err, herr⟩ := exists_adDefect_iff.2 hbad.2
    obtain ⟨e, he, hc⟩ := hbad.1
    have hsame := readPage_eq_error_iff.2 ⟨e, he, .creative hc herr⟩
    rw [hpage] at hsame
    cases hsame
    obtain ⟨-, -, hne, hmissing⟩ := adDefect_missing_iff.1 herr
    refine ⟨hne, ?_⟩
    rw [List.filter_map, hmissing]
    rfl

/-- A creative of which two attributes are missing, behind one in good order. -/
example :
    (match readPage (samplePage [sampleAd "a", .mk adType ((Attribute.all.drop 2).map (sampleProperty "b"))]) with
      | .ok _ => "accepted"
      | .error err => err.message) =
        "some of search result ad attributes were not specified: data-placement-id, data-creative-instance-id" := by
  decide +kernel

end AdConfirm
