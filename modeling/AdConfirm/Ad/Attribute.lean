import AdConfirm.Decimal.Binary64

/-!
The closed set of attributes that a search result ad carries, each exactly once, and the kind of value of each.
-/

namespace AdConfirm

inductive Attribute where
  | placementId
  | creativeInstanceId
  | creativeSetId
  | campaignId
  | advertiserId
  | landingPage
  | headlineText
  | description
  | rewardsValue
  | conversionType
  | conversionUrlPattern
  | conversionAdvertiserPublicKey
  | conversionObservationWindow
  deriving DecidableEq

/-- the kinds of values: one text, one text holding a finite decimal, one integer of 32 bits -/
inductive Shape where
  | text
  | decimal
  | integer
  deriving DecidableEq

abbrev Shape.Value : Shape → Type
  | .text => String
  | .decimal => Decimal.Binary64
  | .integer => Int32

namespace Attribute

/-- every attribute, in the order in which missing ones are listed -/
def all : List Attribute :=
  [.placementId, .creativeInstanceId, .creativeSetId, .campaignId, .advertiserId, .landingPage, .headlineText,
    .description, .rewardsValue, .conversionType, .conversionUrlPattern, .conversionAdvertiserPublicKey,
    .conversionObservationWindow]

def name : Attribute → String
  | .placementId => "data-placement-id"
  | .creativeInstanceId => "data-creative-instance-id"
  | .creativeSetId => "data-creative-set-id"
  | .campaignId => "data-campaign-id"
  | .advertiserId => "data-advertiser-id"
  | .landingPage => "data-landing-page"
  | .headlineText => "data-headline-text"
  | .description => "data-description"
  | .rewardsValue => "data-rewards-value"
  | .conversionType => "data-conversion-type-value"
  | .conversionUrlPattern => "data-conversion-url-pattern-value"
  | .conversionAdvertiserPublicKey => "data-conversion-advertiser-public-key-value"
  | .conversionObservationWindow => "data-conversion-observation-window-value"

def ofName? (s : String) : Option Attribute := all.find? fun a => a.name == s

def shape : Attribute → Shape
  | .rewardsValue => .decimal
  | .conversionObservationWindow => .integer
  | _ => .text

abbrev Value (a : Attribute) : Type := a.shape.Value

/-- place in the order of all attributes -/
def index (a : Attribute) : Nat := all.idxOf a

end Attribute

end AdConfirm
