import Mathlib.Data.List.Induction
import Mathlib.Data.List.Nodup
import AdConfirm.Ad.Markup
import AdConfirm.Proofs.Outcome

/-!
What it takes to read one ad.

An ad entity is in good order when its properties are named by the attributes, each exactly once, and each holds one value of
its kind. Such entities, and no others, are read, and every field of the record is the value of the attribute it is named by.

- `Shape.read?_eq_some_iff`: which values of a property are read, and as what.
- `Draft.holds_of_read`: a draft that was read holds what the properties say, each of another attribute.
- `exists_readAd` and `readAd_eq_ok_iff`: complete properties are read, and as the one record they say.
-/

namespace AdConfirm

namespace Attribute

theorem mem_all (a : Attribute) : a ∈ all := by cases a <;> decide

theorem nodup_names : (all.map name).Nodup := by decide

theorem name_injective {a b : Attribute} (h : a.name = b.name) : a = b :=
  List.inj_on_of_nodup_map nodup_names (mem_all a) (mem_all b) h

theorem ofName?_eq_some_iff {s : String} {a : Attribute} : ofName? s = some a ↔ s = a.name := by
  constructor
  · intro h
    have hname := List.find?_some (p := fun b : Attribute => b.name == s) h
    exact (beq_iff_eq.1 hname).symm
  · rintro rfl
    cases hb : ofName? a.name with
    | none =>
      have hne := List.find?_eq_none.1 hb a (mem_all a)
      exact absurd (beq_self_eq_true a.name) hne
    | some b =>
      have hname := List.find?_some (p := fun c : Attribute => c.name == a.name) hb
      rw [name_injective (beq_iff_eq.1 hname)]

end Attribute

namespace Shape

/-- the values are one value of the kind, and that is `v` -/
def Reads : (s : Shape) → Values → s.Value → Prop
  | .text, vs, v => vs = .strings [v]
  | .decimal, vs, v => ∃ text, vs = .strings [text] ∧ Decimal.readFinite? text = some v
  | .integer, vs, v => ∃ n, vs = .longs [n] ∧ n.toInt = v.toInt

/-- the values are one value of the kind: a text, a text that reads as a finite number, or an integer of 32 bits -/
def Admits : Shape → Values → Prop
  | .text, vs => ∃ text, vs = .strings [text]
  | .decimal, vs => ∃ text, vs = .strings [text] ∧ (Decimal.readFinite? text).isSome
  | .integer, vs => ∃ n, vs = .longs [n] ∧ -2147483648 ≤ n.toInt ∧ n.toInt ≤ 2147483647

theorem singleString?_eq_some_iff {vs : Values} {text : String} : vs.singleString? = some text ↔ vs = .strings [text] := by
  fun_cases Values.singleString? vs <;> grind [Values.singleString?]

theorem singleLong?_eq_some_iff {vs : Values} {n : Int64} : vs.singleLong? = some n ↔ vs = .longs [n] := by
  fun_cases Values.singleLong? vs <;> grind [Values.singleLong?]

/-- Integers of 32 bits are those between the bounds. -/
theorem ofInt_eq_iff {n : Int} {v : Int32} :
    (if Int32.minValue.toInt ≤ n ∧ n ≤ Int32.maxValue.toInt then some (Int32.ofInt n) else none) = some v ↔ n = v.toInt := by
  have hmin : Int32.minValue.toInt = -2 ^ 31 := rfl
  have hmax : Int32.maxValue.toInt = 2 ^ 31 - 1 := rfl
  constructor
  · intro h
    split at h
    · next hn =>
      obtain rfl := Option.some.inj h
      exact (Int32.toInt_ofInt_of_le (by omega) (by omega)).symm
    · cases h
  · rintro rfl
    have hle := v.le_toInt
    have hlt := v.toInt_lt
    rw [if_pos (by omega), Int32.ofInt_toInt]

theorem read?_eq_some_iff (s : Shape) {vs : Values} {v : s.Value} : s.read? vs = some v ↔ s.Reads vs v := by
  cases s with
  | text => exact singleString?_eq_some_iff
  | decimal => simp [read?, Reads, Option.bind_eq_some_iff, singleString?_eq_some_iff]
  | integer => simp only [read?, Reads, Option.bind_eq_some_iff, singleLong?_eq_some_iff, ofInt_eq_iff]

theorem admits_iff (s : Shape) {vs : Values} : s.Admits vs ↔ ∃ v, s.Reads vs v := by
  cases s with
  | text => exact Iff.rfl
  | decimal =>
    simp only [Admits, Reads, Option.isSome_iff_exists]
    exact ⟨fun ⟨t, ht, v, hv⟩ => ⟨v, t, ht, hv⟩, fun ⟨v, t, ht, hv⟩ => ⟨t, ht, v, hv⟩⟩
  | integer =>
    constructor
    · rintro ⟨n, hn, hle, hlt⟩
      exact ⟨Int32.ofInt n.toInt, n, hn, (Int32.toInt_ofInt_of_le (by omega) (by omega)).symm⟩
    · rintro ⟨v, n, hn, hv⟩
      have hle := v.le_toInt
      have hlt := v.toInt_lt
      exact ⟨n, hn, by omega, by omega⟩

theorem Reads.unique {s : Shape} {vs : Values} {v w : s.Value} (hv : s.Reads vs v) (hw : s.Reads vs w) : v = w :=
  Option.some.inj ((s.read?_eq_some_iff.2 hv).symm.trans (s.read?_eq_some_iff.2 hw))

end Shape

/-- the field of a record that an attribute says -/
def AdRecord.get (r : AdRecord) : (a : Attribute) → a.Value
  | .placementId => r.placementId
  | .creativeInstanceId => r.creativeInstanceId
  | .creativeSetId => r.creativeSetId
  | .campaignId => r.campaignId
  | .advertiserId => r.advertiserId
  | .landingPage => r.targetUrl
  | .headlineText => r.headlineText
  | .description => r.description
  | .rewardsValue => r.value
  | .conversionType => r.conversion.type
  | .conversionUrlPattern => r.conversion.urlPattern
  | .conversionAdvertiserPublicKey => r.conversion.advertiserPublicKey
  | .conversionObservationWindow => r.conversion.observationWindow

/-- the properties say `v` of the attribute -/
def Says (ps : List Property) (a : Attribute) (v : a.Value) : Prop := ∃ q ∈ ps, q.name = a.name ∧ a.shape.Reads q.values v

/-- properties in good order: named by the attributes, each exactly once, with one value of the kind under each name -/
structure Complete (ps : List Property) : Prop where
  names : (ps.map Property.name).Perm (Attribute.all.map Attribute.name)
  values : ∀ q ∈ ps, ∀ a : Attribute, q.name = a.name → a.shape.Admits q.values

/-- Properties with different names say one thing of an attribute. -/
theorem Says.unique {ps : List Property} {a : Attribute} {v w : a.Value} (hn : (ps.map Property.name).Nodup)
    (hv : Says ps a v) (hw : Says ps a w) : v = w := by
  obtain ⟨q, hq, hqa, hv⟩ := hv
  obtain ⟨q', hq', hqa', hw⟩ := hw
  obtain rfl := List.inj_on_of_nodup_map hn hq hq' (hqa.trans hqa'.symm)
  exact hv.unique hw

namespace Draft

@[simp] theorem set_self (d : Draft) (a : Attribute) (v : a.Value) : d.set a v a = some v := by simp [set]

theorem set_of_ne (d : Draft) {a b : Attribute} (v : a.Value) (h : a ≠ b) : d.set a v b = d b := by simp [set, h]

/-- A property is added exactly if it is named by an attribute of which nothing was said yet, and holds a value of its
kind. -/
theorem addProperty_eq_ok_iff {d d' : Draft} {q : Property} :
    d.addProperty q = .ok d' ↔
      ∃ (a : Attribute) (v : a.Value), q.name = a.name ∧ d a = none ∧ a.shape.Reads q.values v ∧ d' = d.set a v := by
  unfold addProperty
  constructor
  · intro h
    split at h
    · cases h
    · next a ha =>
      split at h
      · cases h
      · next hfree =>
        split at h
        · cases h
        · next v hv =>
          cases h
          exact ⟨a, v, Attribute.ofName?_eq_some_iff.1 ha, Option.not_isSome_iff_eq_none.1 hfree,
            a.shape.read?_eq_some_iff.1 hv, rfl⟩
  · rintro ⟨a, v, hname, hfree, hv, rfl⟩
    simp [Attribute.ofName?_eq_some_iff.2 hname, hfree, a.shape.read?_eq_some_iff.2 hv]

/-- the draft is what the properties say, each of another attribute -/
structure Holds (d : Draft) (ps : List Property) : Prop where
  nodup : (ps.map Property.name).Nodup
  known : ∀ q ∈ ps, ∃ (a : Attribute) (v : a.Value), q.name = a.name ∧ a.shape.Reads q.values v
  value : ∀ (a : Attribute) (v : a.Value), d a = some v ↔ Says ps a v

theorem holds_nil : empty.Holds [] := ⟨List.nodup_nil, by simp, by simp [empty, Says]⟩

theorem Holds.add {d d' : Draft} {ps : List Property} {q : Property} (h : d.Holds ps) (hq : d.addProperty q = .ok d') :
    d'.Holds (ps ++ [q]) := by
  obtain ⟨a, v, hname, hfree, hv, rfl⟩ := addProperty_eq_ok_iff.1 hq
  -- a property of that name would have filled the place
  have hnew : ∀ p ∈ ps, p.name ≠ q.name := by
    intro p hp hpq
    obtain ⟨b, w, hb, hw⟩ := h.known p hp
    obtain rfl := Attribute.name_injective (hb.symm.trans (hpq.trans hname))
    have hsome := (h.value b w).2 ⟨p, hp, hb, hw⟩
    rw [hfree] at hsome
    cases hsome
  refine ⟨?_, ?_, fun b w => ?_⟩
  · rw [List.map_append, List.nodup_append]
    refine ⟨h.nodup, List.nodup_singleton _, ?_⟩
    simpa using hnew
  · intro p hp
    rcases List.mem_append.1 hp with hp | hp
    · exact h.known p hp
    · exact List.mem_singleton.1 hp ▸ ⟨a, v, hname, hv⟩
  · by_cases hab : a = b
    · subst hab
      rw [set_self, Option.some.injEq]
      constructor
      · rintro rfl
        exact ⟨q, by simp, hname, hv⟩
      · rintro ⟨p, hp, hpa, hw⟩
        rcases List.mem_append.1 hp with hp | hp
        · exact absurd (hpa.trans hname.symm) (hnew p hp)
        · obtain rfl := List.mem_singleton.1 hp
          exact hv.unique hw
    · rw [set_of_ne d v hab, h.value]
      have hqb : q.name ≠ b.name := fun hqb => hab (Attribute.name_injective (hname.symm.trans hqb))
      simp [Says, or_and_right, exists_or, hqb]

/-- A draft that was read holds what the properties say. -/
theorem holds_of_read {ps : List Property} {d : Draft} (h : ps.foldlM addProperty empty = .ok d) : d.Holds ps := by
  induction ps using List.reverseRecOn generalizing d with
  | nil =>
    cases h
    exact holds_nil
  | append_singleton ps q ih =>
    rw [List.foldlM_append] at h
    obtain ⟨d₀, hd₀, hq⟩ := bind_eq_ok.1 h
    obtain ⟨d₁, hd₁, hd⟩ := bind_eq_ok.1 hq
    cases hd
    exact (ih hd₀).add hd₁

/-- Properties that are named by different attributes and hold values of their kinds are read. -/
theorem exists_read {ps : List Property} (hn : (ps.map Property.name).Nodup)
    (hk : ∀ q ∈ ps, ∃ (a : Attribute) (v : a.Value), q.name = a.name ∧ a.shape.Reads q.values v) :
    ∃ d, ps.foldlM addProperty empty = .ok d := by
  induction ps using List.reverseRecOn with
  | nil => exact ⟨empty, rfl⟩
  | append_singleton ps q ih =>
    rw [List.map_append, List.nodup_append] at hn
    obtain ⟨d, hd⟩ := ih hn.1 fun p hp => hk p (List.mem_append_left _ hp)
    obtain ⟨a, v, hname, hv⟩ := hk q (by simp)
    have hfree : d a = none := by
      rw [Option.eq_none_iff_forall_ne_some]
      intro w hw
      obtain ⟨p, hp, hpa, -⟩ := ((holds_of_read hd).value a w).1 hw
      exact hn.2.2 p.name (List.mem_map_of_mem hp) q.name (by simp) (hpa.trans hname.symm)
    refine ⟨d.set a v, ?_⟩
    rw [List.foldlM_append]
    refine bind_eq_ok.2 ⟨d, hd, bind_eq_ok.2 ⟨d.set a v, ?_, rfl⟩⟩
    exact addProperty_eq_ok_iff.2 ⟨a, v, hname, hfree, hv, rfl⟩

/-- A draft is a record as soon as it has every field of it. -/
theorem record?_eq_some_iff {d : Draft} {r : AdRecord} : d.record? = some r ↔ ∀ a, d a = some (r.get a) := by
  constructor
  · intro h a
    unfold record? at h
    obtain ⟨v₀, h₀, h⟩ := Option.bind_eq_some_iff.1 h
    obtain ⟨v₁, h₁, h⟩ := Option.bind_eq_some_iff.1 h
    obtain ⟨v₂, h₂, h⟩ := Option.bind_eq_some_iff.1 h
    obtain ⟨v₃, h₃, h⟩ := Option.bind_eq_some_iff.1 h
    obtain ⟨v₄, h₄, h⟩ := Option.bind_eq_some_iff.1 h
    obtain ⟨v₅, h₅, h⟩ := Option.bind_eq_some_iff.1 h
    obtain ⟨v₆, h₆, h⟩ := Option.bind_eq_some_iff.1 h
    obtain ⟨v₇, h₇, h⟩ := Option.bind_eq_some_iff.1 h
    obtain ⟨v₈, h₈, h⟩ := Option.bind_eq_some_iff.1 h
    obtain ⟨v₉, h₉, h⟩ := Option.bind_eq_some_iff.1 h
    obtain ⟨v₁₀, h₁₀, h⟩ := Option.bind_eq_some_iff.1 h
    obtain ⟨v₁₁, h₁₁, h⟩ := Option.bind_eq_some_iff.1 h
    obtain ⟨v₁₂, h₁₂, h⟩ := Option.bind_eq_some_iff.1 h
    obtain rfl := Option.some.inj h
    cases a <;> assumption
  · intro h
    simp only [record?, h]
    rfl

/-- A draft of everything is a record. -/
theorem exists_record {d : Draft} (h : ∀ a, ∃ v, d a = some v) : ∃ r, d.record? = some r := by
  choose v hv using h
  refine ⟨⟨v .placementId, v .creativeInstanceId, v .creativeSetId, v .campaignId, v .advertiserId, v .landingPage,
    v .headlineText, v .description, v .rewardsValue, ⟨v .conversionType, v .conversionUrlPattern,
    v .conversionAdvertiserPublicKey, v .conversionObservationWindow⟩⟩, record?_eq_some_iff.2 fun a => ?_⟩
  cases a <;> exact hv _

end Draft

/-- A record is what a draft of everything was read as. -/
theorem readAd_eq_ok_iff_record {ps : List Property} {r : AdRecord} :
    readAd ps = .ok r ↔ ∃ d, ps.foldlM Draft.addProperty .empty = .ok d ∧ d.record? = some r := by
  unfold readAd
  rw [bind_eq_ok]
  refine exists_congr fun d => and_congr_right fun _ => ?_
  cases hr : d.record? with
  | none => exact ⟨fun h => (nomatch h), fun h => (nomatch h)⟩
  | some r' => exact ⟨fun h => by cases h; rfl, fun h => by cases h; rfl⟩

/-- A record that was read is what complete properties say. -/
theorem complete_of_readAd {ps : List Property} {r : AdRecord} (h : readAd ps = .ok r) :
    Complete ps ∧ ∀ a, Says ps a (r.get a) := by
  obtain ⟨d, hd, hr⟩ := readAd_eq_ok_iff_record.1 h
  have hholds := Draft.holds_of_read hd
  have htold : ∀ a, Says ps a (r.get a) := fun a => (hholds.value a _).1 (Draft.record?_eq_some_iff.1 hr a)
  refine ⟨⟨?_, fun q hq a hqa => ?_⟩, htold⟩
  · rw [List.perm_ext_iff_of_nodup hholds.nodup Attribute.nodup_names]
    intro name
    constructor
    · intro hname
      obtain ⟨q, hq, rfl⟩ := List.mem_map.1 hname
      obtain ⟨a, -, ha, -⟩ := hholds.known q hq
      exact ha ▸ List.mem_map_of_mem (Attribute.mem_all a)
    · intro hname
      obtain ⟨a, -, rfl⟩ := List.mem_map.1 hname
      obtain ⟨q, hq, hqa, -⟩ := htold a
      exact hqa ▸ List.mem_map_of_mem hq
  · obtain ⟨b, v, hb, hv⟩ := hholds.known q hq
    obtain rfl := Attribute.name_injective (hqa.symm.trans hb)
    exact (Shape.admits_iff _).2 ⟨v, hv⟩

/-- Complete properties are read. -/
theorem exists_readAd {ps : List Property} (h : Complete ps) : ∃ r, readAd ps = .ok r := by
  have hn : (ps.map Property.name).Nodup := h.names.nodup_iff.2 Attribute.nodup_names
  have hk : ∀ q ∈ ps, ∃ (a : Attribute) (v : a.Value), q.name = a.name ∧ a.shape.Reads q.values v := by
    intro q hq
    obtain ⟨a, -, ha⟩ := List.mem_map.1 (h.names.subset (List.mem_map_of_mem hq))
    obtain ⟨v, hv⟩ := (Shape.admits_iff _).1 (h.values q hq a ha.symm)
    exact ⟨a, v, ha.symm, hv⟩
  obtain ⟨d, hd⟩ := Draft.exists_read hn hk
  have hall : ∀ a, ∃ v, d a = some v := by
    intro a
    obtain ⟨q, hq, hqa⟩ := List.mem_map.1 (h.names.symm.subset (List.mem_map_of_mem (Attribute.mem_all a)))
    obtain ⟨v, hv⟩ := (Shape.admits_iff _).1 (h.values q hq a hqa)
    exact ⟨v, ((Draft.holds_of_read hd).value a v).2 ⟨q, hq, hqa, hv⟩⟩
  obtain ⟨r, hr⟩ := Draft.exists_record hall
  exact ⟨r, readAd_eq_ok_iff_record.2 ⟨d, hd, hr⟩⟩

/-- Complete properties say one record, and that is the one read. -/
theorem readAd_eq_ok_iff {ps : List Property} {r : AdRecord} :
    readAd ps = .ok r ↔ Complete ps ∧ ∀ a, Says ps a (r.get a) := by
  refine ⟨complete_of_readAd, fun ⟨h, htold⟩ => ?_⟩
  obtain ⟨r', hr'⟩ := exists_readAd h
  obtain ⟨d, hd, hr⟩ := readAd_eq_ok_iff_record.1 hr'
  have hholds := Draft.holds_of_read hd
  have hrecord : d.record? = some r := Draft.record?_eq_some_iff.2 fun a => (hholds.value a _).2 (htold a)
  exact readAd_eq_ok_iff_record.2 ⟨d, hd, hrecord⟩

end AdConfirm
