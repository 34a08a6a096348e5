import Mathlib.Data.List.TakeWhile
import AdConfirm.Ad.Sample
import AdConfirm.Proofs.Ad.Draft
import AdConfirm.Proofs.History

/-!
Which pages have ads, and which ads they have.

Only the products of a page matter, and of these only the first that has creatives and those before it. A product before it
holds nothing but its context and type; the product itself also holds, exactly once, a list of ads that is not empty.

- `lists_of_read`: creatives that are read are all ads, and under every id the last of them that has it is listed.
- `foldlM_addProductProperty`: what is found in a product, and in which products.
- `readPage_accepts`: which pages are accepted, with which ads, and what of the document that depends on.
-/

namespace AdConfirm

namespace Entity

def isProduct (e : Entity) : Bool := e.type = productType

/-- the entity has a property for its creatives -/
def hasCreatives (e : Entity) : Bool := e.properties.any fun q => q.name = creativesProperty

/-- the entity is a product with creatives -/
def isOffer (e : Entity) : Bool := e.isProduct && e.hasCreatives

/-- a product without creatives in good order -/
def IsPlain (e : Entity) : Prop := ∀ q ∈ e.properties, q.name = contextProperty ∨ q.name = typeProperty

/-- an ad in good order -/
structure IsAd (e : Entity) : Prop where
  type_eq : e.type = adType
  complete : Complete e.properties

/-- a product in good order that offers these creatives -/
structure Offers (e : Entity) (creatives : List Entity) : Prop where
  names : ∀ q ∈ e.properties, q.name = contextProperty ∨ q.name = typeProperty ∨ q.name = creativesProperty
  once : (e.properties.filter fun q => q.name = creativesProperty).map Property.values = [.entities creatives]
  nonempty : creatives ≠ []
  ads : ∀ c ∈ creatives, c.IsAd

def HasId (e : Entity) (id : String) : Prop := Says e.properties .creativeInstanceId id

/-- every field of the record is what the entity says of the attribute -/
def Describes (e : Entity) (r : AdRecord) : Prop := ∀ a, Says e.properties a (r.get a)

end Entity

namespace WebPage

def offer? (p : WebPage) : Option Entity := p.entities.find? Entity.isOffer

/-- the products before it; all products, if there is none -/
def productsBefore (p : WebPage) : List Entity := (p.entities.takeWhile fun e => !e.isOffer).filter Entity.isProduct

end WebPage

/-! ## Creatives -/

theorem addCreative_eq_ok_iff {ads ads' : AdMap} {e : Entity} :
    addCreative ads e = .ok ads' ↔ e.IsAd ∧ ∃ r, e.Describes r ∧ ads' = ads.insert r.creativeInstanceId r := by
  unfold addCreative
  constructor
  · intro h
    split at h
    · cases h
    · next ht =>
      cases hr : readAd e.properties with
      | error x =>
        rw [hr] at h
        cases h
      | ok r =>
        rw [hr] at h
        cases h
        obtain ⟨hc, htold⟩ := complete_of_readAd hr
        exact ⟨⟨not_not.1 ht, hc⟩, r, htold, rfl⟩
  · rintro ⟨⟨ht, hc⟩, r, htold, rfl⟩
    rw [if_neg (not_not.2 ht), readAd_eq_ok_iff.2 ⟨hc, htold⟩]
    rfl

/-- the ads that the creatives say: under every id of one of them, the record of the last that has it -/
structure Lists (ads : AdMap) (es : List Entity) : Prop where
  ids : ∀ id, ads.contains id ↔ ∃ e ∈ es, e.HasId id
  last : ∀ id r, ads.find? id = some r ↔
    ∃ before e after, es = before ++ e :: after ∧ e.HasId id ∧ (∀ f ∈ after, ¬ f.HasId id) ∧ e.Describes r

theorem Entity.IsAd.nodup {e : Entity} (h : e.IsAd) : (e.properties.map Property.name).Nodup :=
  h.complete.names.nodup_iff.2 Attribute.nodup_names

/-- An ad has the id of its record and no other. -/
theorem Entity.Describes.hasId_iff {e : Entity} {r : AdRecord} (h : e.Describes r) (he : e.IsAd) {id : String} :
    e.HasId id ↔ r.creativeInstanceId = id :=
  ⟨fun hid => Says.unique he.nodup (h .creativeInstanceId) hid, fun hid => hid ▸ h .creativeInstanceId⟩

/-- An ad is described by one record. -/
theorem Entity.Describes.unique {e : Entity} {r r' : AdRecord} (h : e.Describes r) (h' : e.Describes r') (he : e.IsAd) :
    r = r' := by
  have hread := readAd_eq_ok_iff.2 ⟨he.complete, h⟩
  rw [readAd_eq_ok_iff.2 ⟨he.complete, h'⟩] at hread
  exact (Except.ok.inj hread).symm

theorem lists_nil : Lists Table.empty [] := ⟨by simp [Table.contains], by simp⟩

/-- The ad that is read last is listed under its id, whatever was listed there. -/
theorem Lists.add {ads : AdMap} {es : List Entity} {e : Entity} {r : AdRecord} (h : Lists ads es) (he : e.IsAd)
    (hr : e.Describes r) : Lists (ads.insert r.creativeInstanceId r) (es ++ [e]) := by
  constructor
  · intro id
    rw [Table.contains, Table.find?_insert]
    by_cases hid : r.creativeInstanceId = id
    · simp [hid, (hr.hasId_iff he).2 hid]
    · have hne : ¬ e.HasId id := fun hd => hid ((hr.hasId_iff he).1 hd)
      rw [if_neg hid, ← Table.contains, h.ids]
      simp [or_and_right, exists_or, hne]
  · intro id r'
    rw [Table.find?_insert]
    constructor
    · intro hf
      split at hf
      · next hid =>
        obtain rfl := Option.some.inj hf
        exact ⟨es, e, [], rfl, (hr.hasId_iff he).2 hid, by simp, hr⟩
      · next hid =>
        obtain ⟨before, f, after, rfl, hf, hlast, hr'⟩ := (h.last id r').1 hf
        refine ⟨before, f, after ++ [e], by simp, hf, fun g hg => ?_, hr'⟩
        rcases List.mem_append.1 hg with hg | hg
        · exact hlast g hg
        · exact List.mem_singleton.1 hg ▸ fun hd => hid ((hr.hasId_iff he).1 hd)
    · rintro ⟨before, f, after, hes, hf, hlast, hr'⟩
      -- the last creative of the id is the one just read, or one before it
      rcases snoc_eq_split_iff.1 hes with ⟨-, rfl, -⟩ | ⟨rest, rfl, rfl⟩
      · rw [if_pos ((hr.hasId_iff he).1 hf), hr.unique hr' he]
      · have hid : r.creativeInstanceId ≠ id := fun hid => hlast e (by simp) ((hr.hasId_iff he).2 hid)
        rw [if_neg hid, h.last]
        exact ⟨before, f, rest, rfl, hf, fun g hg => hlast g (by simp [hg]), hr'⟩

/-- Creatives that are read are all ads, and what was read lists them. -/
theorem lists_of_read {es : List Entity} {ads : AdMap} (h : es.foldlM addCreative Table.empty = .ok ads) :
    (∀ e ∈ es, e.IsAd) ∧ Lists ads es := by
  induction es using List.reverseRecOn generalizing ads with
  | nil =>
    cases h
    exact ⟨by simp, lists_nil⟩
  | append_singleton es e ih =>
    rw [List.foldlM_append] at h
    obtain ⟨ads₀, hads₀, he⟩ := bind_eq_ok.1 h
    obtain ⟨ads₁, hads₁, hads⟩ := bind_eq_ok.1 he
    cases hads
    obtain ⟨had, r, hr, rfl⟩ := addCreative_eq_ok_iff.1 hads₁
    obtain ⟨hall, hlists⟩ := ih hads₀
    refine ⟨fun f hf => ?_, hlists.add had hr⟩
    rcases List.mem_append.1 hf with hf | hf
    · exact hall f hf
    · exact List.mem_singleton.1 hf ▸ had

/-- Ads are read, whatever was read before. -/
theorem exists_read_of_ads {es : List Entity} (h : ∀ e ∈ es, e.IsAd) (ads : AdMap) :
    ∃ ads', es.foldlM addCreative ads = .ok ads' := by
  induction es generalizing ads with
  | nil => exact ⟨ads, rfl⟩
  | cons e es ih =>
    have he := h e (by simp)
    obtain ⟨r, hr⟩ := exists_readAd he.complete
    have hadd : addCreative ads e = .ok (ads.insert r.creativeInstanceId r) :=
      addCreative_eq_ok_iff.2 ⟨he, r, (complete_of_readAd hr).2, rfl⟩
    obtain ⟨ads', hads'⟩ := ih (fun f hf => h f (by simp [hf])) (ads.insert r.creativeInstanceId r)
    exact ⟨ads', by rw [List.foldlM_cons]; exact bind_eq_ok.2 ⟨_, hadd, hads'⟩⟩

/-- What creatives are read: a list of ads that is not empty. -/
theorem readCreatives_isOk_iff {vs : Values} :
    (∃ ads, readCreatives vs = .ok ads) ↔ ∃ es, vs = .entities es ∧ es ≠ [] ∧ ∀ e ∈ es, e.IsAd := by
  constructor
  · rintro ⟨ads, h⟩
    unfold readCreatives at h
    split at h
    · cases h
    · next es hne => exact ⟨es, rfl, fun hes => hne (by rw [hes]), (lists_of_read h).1⟩
    · cases h
  · rintro ⟨es, rfl, hne, hes⟩
    obtain ⟨e, es, rfl⟩ := List.exists_cons_of_ne_nil hne
    exact exists_read_of_ads hes Table.empty

theorem lists_of_readCreatives {es : List Entity} {ads : AdMap} (h : readCreatives (.entities es) = .ok ads) :
    Lists ads es := by
  cases es with
  | nil => cases h
  | cons e es => exact (lists_of_read h).2

/-! ## Products -/

theorem ne_creatives_of_plain {name : String} (h : name = contextProperty ∨ name = typeProperty) :
    name ≠ creativesProperty := by
  rcases h with rfl | rfl <;> decide

theorem addProductProperty_eq_ok_iff {found found' : Option Values} {q : Property} :
    addProductProperty found q = .ok found' ↔
      (q.name = contextProperty ∨ q.name = typeProperty) ∧ found = found' ∨
        q.name = creativesProperty ∧ found = none ∧ some q.values = found' := by
  unfold addProductProperty
  split
  · next h => simp only [h, ne_creatives_of_plain h, Except.ok.injEq, true_and, false_and, or_false]
  · next h =>
    split
    · next hq =>
      rw [hq] at h ⊢
      cases found with
      | none => simp only [h, Except.ok.injEq, false_and, true_and, false_or]
      | some vs => simp only [h, reduceCtorEq, false_and, and_false, or_self]
    · next hq => simp only [h, hq, reduceCtorEq, false_and, or_self]

/-- What is found in a product: nothing but a context and a type, and at most one property for the creatives. -/
theorem foldlM_addProductProperty {ps : List Property} {found found' : Option Values} :
    ps.foldlM addProductProperty found = .ok found' ↔
      (∀ q ∈ ps, q.name = contextProperty ∨ q.name = typeProperty ∨ q.name = creativesProperty) ∧
        found.toList ++ (ps.filter fun q => q.name = creativesProperty).map Property.values = found'.toList := by
  induction ps generalizing found with
  | nil =>
    have htoList : found.toList = found'.toList ↔ found = found' := by cases found <;> cases found' <;> simp
    simp [pure, Except.pure, htoList]
  | cons q ps ih =>
    rw [List.foldlM_cons, bind_eq_ok]
    constructor
    · rintro ⟨next, hstep, hrest⟩
      obtain ⟨hnames, hfound⟩ := ih.1 hrest
      rcases addProductProperty_eq_ok_iff.1 hstep with ⟨hq, rfl⟩ | ⟨hq, rfl, rfl⟩
      · rw [List.filter_cons_of_neg (by simpa using ne_creatives_of_plain hq)]
        exact ⟨List.forall_mem_cons.2 ⟨or_assoc.1 (.inl hq), hnames⟩, hfound⟩
      · rw [List.filter_cons_of_pos (by simpa using hq)]
        exact ⟨List.forall_mem_cons.2 ⟨.inr (.inr hq), hnames⟩, by simpa using hfound⟩
    · rintro ⟨hnames, hfound⟩
      obtain ⟨hq, hnames⟩ := List.forall_mem_cons.1 hnames
      by_cases hc : q.name = creativesProperty
      · rw [List.filter_cons_of_pos (by simpa using hc), List.map_cons] at hfound
        -- two properties would not fit into one place
        cases found with
        | none => exact ⟨some q.values, addProductProperty_eq_ok_iff.2 (.inr ⟨hc, rfl, rfl⟩), ih.2 ⟨hnames, hfound⟩⟩
        | some vs =>
          have hlength := congrArg List.length hfound
          have hle : found'.toList.length ≤ 1 := by cases found' <;> simp
          simp only [List.length_append, List.length_cons, Option.toList_some] at hlength
          omega
      · rw [List.filter_cons_of_neg (by simpa using hc)] at hfound
        have hplain : q.name = contextProperty ∨ q.name = typeProperty := by
          rcases hq with hq | hq | hq
          · exact .inl hq
          · exact .inr hq
          · exact absurd hq hc
        exact ⟨found, addProductProperty_eq_ok_iff.2 (.inl ⟨hplain, rfl⟩), ih.2 ⟨hnames, hfound⟩⟩

/-- A product is passed over exactly if it is one without creatives in good order. -/
theorem creatives?_eq_none_iff {e : Entity} : creatives? e.properties = .ok none ↔ e.IsPlain := by
  rw [creatives?, foldlM_addProductProperty]
  constructor
  · rintro ⟨hnames, hnone⟩ q hq
    have hne : q.name ≠ creativesProperty := by
      simpa using List.filter_eq_nil_iff.1 (List.map_eq_nil_iff.1 hnone) q hq
    rcases hnames q hq with h | h | h
    · exact .inl h
    · exact .inr h
    · exact absurd h hne
  · intro h
    refine ⟨fun q hq => or_assoc.1 (.inl (h q hq)), ?_⟩
    have hnil : (e.properties.filter fun q => q.name = creativesProperty) = [] :=
      List.filter_eq_nil_iff.2 fun q hq => by simpa using ne_creatives_of_plain (h q hq)
    rw [hnil]
    rfl

/-- The creatives of a product are found exactly if it is in good order and has them once. -/
theorem creatives?_eq_some_iff {e : Entity} {vs : Values} :
    creatives? e.properties = .ok (some vs) ↔
      (∀ q ∈ e.properties, q.name = contextProperty ∨ q.name = typeProperty ∨ q.name = creativesProperty) ∧
        (e.properties.filter fun q => q.name = creativesProperty).map Property.values = [vs] :=
  foldlM_addProductProperty

theorem Entity.hasCreatives_iff {e : Entity} :
    e.hasCreatives = true ↔ (e.properties.filter fun q => q.name = creativesProperty) ≠ [] := by
  simp [Entity.hasCreatives, List.filter_eq_nil_iff]

theorem hasCreatives_of_found {e : Entity} {vs : Values} (h : creatives? e.properties = .ok (some vs)) :
    e.hasCreatives = true := by
  rw [Entity.hasCreatives_iff]
  intro hnil
  have hmap := (creatives?_eq_some_iff.1 h).2
  rw [hnil] at hmap
  cases hmap

theorem not_plain_of_hasCreatives {e : Entity} (h : e.hasCreatives = true) : ¬ e.IsPlain := by
  intro hplain
  obtain ⟨q, hq, hname⟩ := List.any_eq_true.1 h
  exact ne_creatives_of_plain (hplain q hq) (of_decide_eq_true hname)

/-- A product without creatives is read past if it is in good order. -/
theorem readProducts_cons_of_plain {e : Entity} (h : e.hasCreatives = false) {rest : List Entity} {ads : AdMap} :
    readProducts (e :: rest) = .ok ads ↔ e.IsPlain ∧ readProducts rest = .ok ads := by
  rw [readProducts, bind_eq_ok]
  constructor
  · rintro ⟨found, hfound, hrest⟩
    cases found with
    | none => exact ⟨creatives?_eq_none_iff.1 hfound, hrest⟩
    | some vs =>
      rw [hasCreatives_of_found hfound] at h
      cases h
  · rintro ⟨hplain, hrest⟩
    exact ⟨none, creatives?_eq_none_iff.2 hplain, hrest⟩

/-- With the first product that has creatives the reading is over. -/
theorem readProducts_cons_of_creatives {e : Entity} (h : e.hasCreatives = true) (rest : List Entity) :
    readProducts (e :: rest) = readProducts [e] := by
  rw [readProducts, readProducts]
  cases hfound : creatives? e.properties with
  | error x => rfl
  | ok found =>
    cases found with
    | none => exact absurd (creatives?_eq_none_iff.1 hfound) (not_plain_of_hasCreatives h)
    | some vs => rfl

theorem readProducts_append_of_plain {before : List Entity} (h : ∀ e ∈ before, e.hasCreatives = false)
    {rest : List Entity} {ads : AdMap} :
    readProducts (before ++ rest) = .ok ads ↔ (∀ e ∈ before, e.IsPlain) ∧ readProducts rest = .ok ads := by
  induction before with
  | nil => simp
  | cons e before ih =>
    obtain ⟨he, hbefore⟩ := List.forall_mem_cons.1 h
    rw [List.cons_append, readProducts_cons_of_plain he, ih hbefore, List.forall_mem_cons, and_assoc]

/-- A product that has creatives is read exactly if it offers some in good order, and what was read lists them. -/
theorem readProducts_offer {e : Entity} (h : e.hasCreatives = true) :
    ((∃ ads, readProducts [e] = .ok ads) ↔ ∃ es, e.Offers es) ∧
      ∀ ads es, readProducts [e] = .ok ads → e.Offers es → Lists ads es := by
  have hread : ∀ ads, readProducts [e] = .ok ads ↔
      ∃ vs, creatives? e.properties = .ok (some vs) ∧ readCreatives vs = .ok ads := by
    intro ads
    rw [readProducts, bind_eq_ok]
    constructor
    · rintro ⟨found, hfound, hads⟩
      cases found with
      | none => exact absurd (creatives?_eq_none_iff.1 hfound) (not_plain_of_hasCreatives h)
      | some vs => exact ⟨vs, hfound, hads⟩
    · rintro ⟨vs, hfound, hads⟩
      exact ⟨some vs, hfound, hads⟩
  simp only [hread]
  refine ⟨⟨?_, ?_⟩, ?_⟩
  · rintro ⟨ads, vs, hfound, hads⟩
    obtain ⟨es, rfl, hne, hall⟩ := readCreatives_isOk_iff.1 ⟨ads, hads⟩
    obtain ⟨hnames, honce⟩ := creatives?_eq_some_iff.1 hfound
    exact ⟨es, hnames, honce, hne, hall⟩
  · rintro ⟨es, hes⟩
    obtain ⟨ads, hads⟩ := readCreatives_isOk_iff.2 ⟨es, rfl, hes.nonempty, hes.ads⟩
    exact ⟨ads, .entities es, creatives?_eq_some_iff.2 ⟨hes.names, hes.once⟩, hads⟩
  · rintro ads es ⟨vs, hfound, hads⟩ hes
    rw [creatives?_eq_some_iff.2 ⟨hes.names, hes.once⟩] at hfound
    cases hfound
    exact lists_of_readCreatives hads

/-! ## Pages -/

/-- Of the entities only the products matter, and of these only the first that has creatives and those before it. -/
theorem readProducts_filter (es : List Entity) :
    readProducts (es.filter Entity.isProduct) =
      readProducts ((es.takeWhile fun e => !e.isOffer).filter Entity.isProduct ++ (es.find? Entity.isOffer).toList) := by
  induction es with
  | nil => rfl
  | cons e es ih =>
    cases hproduct : e.isProduct with
    | false =>
      have hoffer : e.isOffer = false := by simp [Entity.isOffer, hproduct]
      simpa [hoffer, hproduct] using ih
    | true =>
      cases hcreatives : e.hasCreatives with
      | false =>
        have hoffer : e.isOffer = false := by simp [Entity.isOffer, hcreatives]
        simp [hoffer, hproduct, readProducts, ih]
      | true =>
        have hoffer : e.isOffer = true := by simp [Entity.isOffer, hproduct, hcreatives]
        simp [hoffer, hproduct, readProducts_cons_of_creatives hcreatives (es.filter Entity.isProduct)]

theorem readPage_eq (p : WebPage) : readPage p = readProducts (p.productsBefore ++ p.offer?.toList) :=
  readProducts_filter p.entities

theorem WebPage.hasCreatives_of_before {p : WebPage} {e : Entity} (h : e ∈ p.productsBefore) : e.hasCreatives = false := by
  obtain ⟨hmem, hproduct⟩ := List.mem_filter.1 h
  have hoffer := List.mem_takeWhile_imp hmem
  simpa [Entity.isOffer, hproduct] using hoffer

theorem readPage_eq_ok_iff {p : WebPage} {ads : AdMap} :
    readPage p = .ok ads ↔ (∀ e ∈ p.productsBefore, e.IsPlain) ∧ readProducts p.offer?.toList = .ok ads := by
  rw [readPage_eq, readProducts_append_of_plain fun e he => WebPage.hasCreatives_of_before he]

/-- The ads of a page are listed under their own ids. -/
theorem id_of_readPage {p : WebPage} {ads : AdMap} (h : readPage p = .ok ads) {id : String} {r : AdRecord}
    (hr : ads.find? id = some r) : r.creativeInstanceId = id := by
  have hread := (readPage_eq_ok_iff.1 h).2
  cases ho : p.offer? with
  | none =>
    rw [ho] at hread
    cases hread
    cases hr
  | some e =>
    have hoffer : e.isOffer = true := List.find?_some ho
    obtain ⟨hsome, hlists⟩ := readProducts_offer (Bool.and_eq_true_iff.1 hoffer).2
    rw [ho] at hread
    obtain ⟨es, hes⟩ := hsome.1 ⟨ads, hread⟩
    obtain ⟨before, f, after, hsplit, hid, -, hdescribes⟩ := ((hlists ads es hread hes).last id r).1 hr
    have hf : f ∈ es := by rw [hsplit]; simp
    exact (hdescribes.hasId_iff (hes.ads f hf)).1 hid

/-- **A page is accepted exactly if its offer, and the products before it, are in good order.** Whatever the document: the
products before the first one that has creatives hold nothing but a context and a type, and that one, if there is any, offers
ads of which each has every attribute once. The page then has, under every id of an ad it offers, the record of the last
such ad, and no ads where there is no offer. Nothing else in the document matters. -/
theorem readPage_accepts (p : WebPage) :
    ((∃ ads, readPage p = .ok ads) ↔
        (∀ e ∈ p.productsBefore, e.IsPlain) ∧ ∀ e, p.offer? = some e → ∃ es, e.Offers es) ∧
      (∀ ads, readPage p = .ok ads →
        (p.offer? = none → ads = Table.empty) ∧ ∀ e es, p.offer? = some e → e.Offers es → Lists ads es) ∧
      ∀ q : WebPage, q.productsBefore = p.productsBefore → q.offer? = p.offer? → readPage q = readPage p := by
  have hcreatives : ∀ e, p.offer? = some e → e.hasCreatives = true := by
    intro e he
    have hoffer : e.isOffer = true := List.find?_some he
    exact (Bool.and_eq_true_iff.1 hoffer).2
  refine ⟨?_, ?_, ?_⟩
  · simp only [readPage_eq_ok_iff, exists_and_left]
    refine and_congr_right fun _ => ?_
    cases ho : p.offer? with
    | none => exact ⟨fun _ e he => (nomatch he), fun _ => ⟨Table.empty, rfl⟩⟩
    | some e =>
      rw [Option.toList_some, (readProducts_offer (hcreatives e ho)).1]
      exact ⟨fun h f hf => Option.some.inj hf ▸ h, fun h => h e rfl⟩
  · intro ads hads
    have hread := (readPage_eq_ok_iff.1 hads).2
    constructor
    · intro hnone
      rw [hnone] at hread
      exact (Except.ok.inj hread).symm
    · intro e es he hes
      rw [he] at hread
      exact (readProducts_offer (hcreatives e he)).2 ads es hread hes
  · intro q hbefore hoffer
    rw [readPage_eq, readPage_eq, hbefore, hoffer]

/-- Of two ads of one id one is listed. -/
example : (readPage (samplePage [sampleAd "a", sampleAd "b", sampleAd "a"])).toOption.map Table.keys = some ["a", "b"] := by
  decide +kernel

end AdConfirm
