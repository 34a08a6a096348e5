import AdConfirm.Ad.Attribute
import AdConfirm.Ad.Record
import AdConfirm.Decimal.Numeral
import AdConfirm.Page.Document
import AdConfirm.Text.Split

/-!
Search result ads in the markup of a page.

The ads stand in the first product of the page that has creatives. Products before it, and the product itself, hold
nothing but the context, the type and the creatives; every creative is a search result ad with every attribute exactly
once. One defect rejects the whole page, and the first in reading order is the one reported: of a product all property
names come before its creatives, of a creative its type before its attributes, of an attribute an unknown name before a
repetition before an unreadable value.
-/

namespace AdConfirm

/-- type of the entities that may hold ads -/
def productType : String := "Product"

def adType : String := "SearchResultAd"

/-- names of the properties of a product -/
def contextProperty : String := "@context"

@[inherit_doc contextProperty] def typeProperty : String := "@type"

@[inherit_doc contextProperty] def creativesProperty : String := "creatives"

/-- why a page is rejected -/
inductive MarkupError where
  | unexpectedProperty (name : String)
  | repeatedCreatives
  | creativesNotEntities (kind : String)
  | noCreatives
  | wrongAdType (type : String)
  | unknownAttribute (name : String)
  | repeatedAttribute (a : Attribute)
  | unreadableValue (a : Attribute)
  | missingAttributes (missing : List Attribute)
  deriving DecidableEq

def MarkupError.message : MarkupError → String
  | .unexpectedProperty name => "unexpected product property: " ++ name
  | .repeatedCreatives => "product declares creatives more than once"
  | .creativesNotEntities kind => "creatives property does not hold entities (got " ++ kind ++ ")"
  | .noCreatives => "search result ad attributes list is empty"
  | .wrongAdType type => "wrong search result ad type specified: " ++ type
  | .unknownAttribute name => "wrong search result ad attribute specified: " ++ name
  | .repeatedAttribute a => "search result ad attribute specified twice: " ++ a.name
  | .unreadableValue a => "cannot read search result ad attribute value: " ++ a.name
  | .missingAttributes missing =>
    "some of search result ad attributes were not specified: " ++ Text.joined ", " (missing.map Attribute.name)

/-- the attributes read so far -/
def Draft : Type := (a : Attribute) → Option a.Value

namespace Draft

def empty : Draft := fun _ => none

def set (d : Draft) (a : Attribute) (v : a.Value) : Draft := fun b => if h : a = b then some (h ▸ v) else d b

/-- attributes not read, in their order -/
def missing (d : Draft) : List Attribute := Attribute.all.filter fun a => (d a).isNone

/-- the ad, once every attribute is there -/
def record? (d : Draft) : Option AdRecord := do
  return {
    placementId := ← d .placementId
    creativeInstanceId := ← d .creativeInstanceId
    creativeSetId := ← d .creativeSetId
    campaignId := ← d .campaignId
    advertiserId := ← d .advertiserId
    targetUrl := ← d .landingPage
    headlineText := ← d .headlineText
    description := ← d .description
    value := ← d .rewardsValue
    conversion := {
      type := ← d .conversionType
      urlPattern := ← d .conversionUrlPattern
      advertiserPublicKey := ← d .conversionAdvertiserPublicKey
      observationWindow := ← d .conversionObservationWindow } }

end Draft

/-- a value of the kind, where the property holds exactly one -/
def Shape.read? : (s : Shape) → Values → Option s.Value
  | .text, vs => vs.singleString?
  | .decimal, vs => vs.singleString?.bind Decimal.readFinite?
  | .integer, vs => vs.singleLong?.bind fun n =>
      if Int32.minValue.toInt ≤ n.toInt ∧ n.toInt ≤ Int32.maxValue.toInt then some (Int32.ofInt n.toInt) else none

/-- reads one property of an ad entity -/
def Draft.addProperty (d : Draft) (p : Property) : Except MarkupError Draft :=
  match Attribute.ofName? p.name with
  | none => .error (.unknownAttribute p.name)
  | some a =>
    if (d a).isSome then .error (.repeatedAttribute a)
    else match a.shape.read? p.values with
      | none => .error (.unreadableValue a)
      | some v => .ok (d.set a v)

def readAd (ps : List Property) : Except MarkupError AdRecord := do
  let d ← ps.foldlM Draft.addProperty Draft.empty
  match d.record? with
  | some r => return r
  | none => throw (.missingAttributes d.missing)

/-- reads one creative into the ads before it; of two with one id the later one stays -/
def addCreative (ads : AdMap) (e : Entity) : Except MarkupError AdMap :=
  if e.type ≠ adType then .error (.wrongAdType e.type)
  else (readAd e.properties).map fun r => ads.insert r.creativeInstanceId r

def readCreatives : Values → Except MarkupError AdMap
  | .entities [] => .error .noCreatives
  | .entities es => es.foldlM addCreative Table.empty
  | vs => .error (.creativesNotEntities vs.kind)

/-- looks at one property of a product; the creatives found so far go along -/
def addProductProperty (found : Option Values) (p : Property) : Except MarkupError (Option Values) :=
  if p.name = contextProperty ∨ p.name = typeProperty then .ok found
  else if p.name = creativesProperty then
    match found with
    | none => .ok (some p.values)
    | some _ => .error .repeatedCreatives
  else .error (.unexpectedProperty p.name)

def creatives? (ps : List Property) : Except MarkupError (Option Values) := ps.foldlM addProductProperty none

/-- ads of the first product that has creatives -/
def readProducts : List Entity → Except MarkupError AdMap
  | [] => .ok Table.empty
  | e :: rest => do
    match ← creatives? e.properties with
    | some vs => readCreatives vs
    | none => readProducts rest

/-- the ads of a page, or its first defect -/
def readPage (p : WebPage) : Except MarkupError AdMap := readProducts (p.entities.filter fun e => e.type = productType)

/-- the ads of a page; a rejected page has none -/
def adsOf (p : WebPage) : AdMap :=
  match readPage p with
  | .ok ads => ads
  | .error _ => Table.empty

end AdConfirm
