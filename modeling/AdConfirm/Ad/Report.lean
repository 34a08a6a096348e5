import AdConfirm.Ad.Markup
import AdConfirm.Decimal.Layout
import AdConfirm.Log
import AdConfirm.Text.Quoted

/-!
Log lines about the ads of a page.
-/

namespace AdConfirm

def AdRecord.line (r : AdRecord) : Log.Line :=
  ⟨.debug, "parsed search result ad",
    [("placement_id", r.placementId), ("creative_instance_id", r.creativeInstanceId),
      ("creative_set_id", r.creativeSetId), ("campaign_id", r.campaignId), ("advertiser_id", r.advertiserId),
      ("target_url", r.targetUrl), ("headline_text", r.headlineText), ("description", r.description),
      ("value", Decimal.hexBits r.value), ("conversion_type", r.conversion.type),
      ("conversion_url_pattern", r.conversion.urlPattern),
      ("conversion_public_key", r.conversion.advertiserPublicKey),
      ("conversion_observation_window", toString r.conversion.observationWindow.toInt)]⟩

/-- lines about a page: its ads by their ids, or why it is rejected -/
def pageLines (p : WebPage) : List Log.Line :=
  match readPage p with
  | .ok ads =>
    if ads.isEmpty then [⟨.debug, "no search result ad found", []⟩] else ads.values.map AdRecord.line
  | .error e =>
    [⟨.warn, "rejected search result ad markup", [("error", e.message), ("url", Text.quotedOption p.url)]⟩]

end AdConfirm
