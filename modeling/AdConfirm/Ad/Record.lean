import AdConfirm.Decimal.Binary64
import AdConfirm.Table

/-!
A complete search result ad.
-/

namespace AdConfirm

/-- what counts as a conversion, and for how many days -/
structure Conversion where
  type : String
  urlPattern : String
  advertiserPublicKey : String
  observationWindow : Int32
  deriving DecidableEq

/-- a search result ad with every attribute present -/
structure AdRecord where
  placementId : String
  creativeInstanceId : String
  creativeSetId : String
  campaignId : String
  advertiserId : String
  targetUrl : String
  headlineText : String
  description : String
  value : Decimal.Binary64
  conversion : Conversion
  deriving DecidableEq

/-- the ads of a page by their creative instance ids -/
abbrev AdMap := Table AdRecord

end AdConfirm
