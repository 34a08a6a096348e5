import AdConfirm.Ad.Record
import AdConfirm.Json.Members
import AdConfirm.Json.Value

/-!
Ads as JSON. All members are required; the value of an ad may be written as any number.
-/

namespace AdConfirm

open AdConfirm.Json

/-- a 32-bit integer, written without point or power -/
def Json.Tree.asInt32? : Tree → Option Int32
  | .number s => (Number.ofText? s).bind fun n => n.toInt?.bind fun i =>
      if Int32.minValue.toInt ≤ i ∧ i ≤ Int32.maxValue.toInt then some (Int32.ofInt i) else none
  | _ => none

def Json.Tree.asBinary64? : Tree → Option Decimal.Binary64
  | .number s => (Number.ofText? s).bind Number.toBinary64?
  | _ => none

def textMember? (t : Option Tree) : Option String := t.bind Tree.asText?

def Conversion.memberNames : List String := ["type", "urlPattern", "advertiserPublicKey", "observationWindow"]

def Conversion.ofTree? (t : Tree) : Option Conversion :=
  match t.members? Conversion.memberNames with
  | some [type, urlPattern, key, window] => do
    return ⟨← textMember? type, ← textMember? urlPattern, ← textMember? key, ← window.bind Tree.asInt32?⟩
  | _ => none

def AdRecord.memberNames : List String :=
  ["placementId", "creativeInstanceId", "creativeSetId", "campaignId", "advertiserId", "targetUrl", "headlineText",
    "description", "value", "conversion"]

def AdRecord.ofTree? (t : Tree) : Option AdRecord :=
  match t.members? AdRecord.memberNames with
  | some [placement, creative, set, campaign, advertiser, url, headline, description, value, conversion] => do
    return ⟨← textMember? placement, ← textMember? creative, ← textMember? set, ← textMember? campaign,
      ← textMember? advertiser, ← textMember? url, ← textMember? headline, ← textMember? description,
      ← value.bind Tree.asBinary64?, ← conversion.bind Conversion.ofTree?⟩
  | _ => none

/-- reads an ad, the whole text or nothing -/
def AdRecord.read? (s : String) : Option AdRecord := (Tree.read? s.toList).bind AdRecord.ofTree?

/-- an ad as it is written, its value shown as given -/
def AdRecord.treeWith (value : Tree) (r : AdRecord) : Tree :=
  .ofFields [("placementId", .ofString r.placementId), ("creativeInstanceId", .ofString r.creativeInstanceId),
    ("creativeSetId", .ofString r.creativeSetId), ("campaignId", .ofString r.campaignId),
    ("advertiserId", .ofString r.advertiserId), ("targetUrl", .ofString r.targetUrl),
    ("headlineText", .ofString r.headlineText), ("description", .ofString r.description), ("value", value),
    ("conversion", .ofFields [("type", .ofString r.conversion.type), ("urlPattern", .ofString r.conversion.urlPattern),
      ("advertiserPublicKey", .ofString r.conversion.advertiserPublicKey),
      ("observationWindow", .ofInt r.conversion.observationWindow.toInt)])]

def AdRecord.toTree (r : AdRecord) : Tree := r.treeWith (.number (Number.layout.render r.value))

/-- ads by their ids as they are written -/
def AdMap.toTree (ads : AdMap) : Tree := .ofFields (ads.entries.map fun e => (e.1, e.2.toTree))

end AdConfirm
