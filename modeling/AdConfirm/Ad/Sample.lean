import AdConfirm.Ad.Attribute
import AdConfirm.Ad.Record
import AdConfirm.Page.Document

/-!
Well-formed markup and records to try things out with.
-/

namespace AdConfirm

def sampleText (id : String) : Attribute → String
  | .placementId => "placement-" ++ id
  | .creativeInstanceId => id
  | .creativeSetId => "creative-set-1"
  | .campaignId => "campaign-1"
  | .advertiserId => "advertiser-1"
  | .landingPage => "https://advertiser.example/landing"
  | .headlineText => "Headline"
  | .description => "Description"
  | .rewardsValue => "0.5"
  | .conversionType => "postview"
  | .conversionUrlPattern => "https://advertiser.example/*"
  | .conversionAdvertiserPublicKey => "cHVibGljLWtleQ=="
  | .conversionObservationWindow => "30"

def sampleProperty (id : String) (a : Attribute) : Property :=
  match a.shape with
  | .integer => .mk a.name (.longs [30])
  | _ => .mk a.name (.strings [sampleText id a])

def sampleAd (id : String) : Entity := .mk "SearchResultAd" (Attribute.all.map (sampleProperty id))

def sampleRecord (id : String) : AdRecord :=
  ⟨"placement-1", id, "creative-set-1", "campaign-1", "advertiser-1", "https://advertiser.example/landing", "Headline",
    "Description", ⟨false, 1, -1⟩, ⟨"postview", "https://advertiser.example/*", "cHVibGljLWtleQ==", 30⟩⟩

/-- a page whose one product has the given creatives -/
def samplePage (creatives : List Entity) : WebPage :=
  { url := some "https://search.brave.com/search?q=test"
    title := none
    entities := [.mk "Product"
      [.mk "@context" (.strings ["https://schema.org"]), .mk "creatives" (.entities creatives)]] }

end AdConfirm
