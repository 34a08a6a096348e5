import AdConfirm.Ad.Sample
import AdConfirm.Cli.Replay
import AdConfirm.Proofs.Pipeline.Stored

/-!
What a replay counts.

A replay reports how many ads its tab has when the ingestion is over. Views requested early are answered while the ingestion
completes and take their ads out of the tab before the count is made, so the count leaves them out; views requested
afterwards make no difference.

- `replay_adsIngested`: the count of every replay, and exactly when it is the number of ads the document was accepted with.
- `early_view_uncounted`: an early view of the only ad of a page leaves a count of none.
-/

namespace AdConfirm.Cli

open AdConfirm.Pipeline (Setup)

/-- the ads that a replay ingests: those that its document is accepted with, if the policy lets the page be asked for them -/
def ingested (policy : Policy.Snapshot) (page : WebPage) (url : Url) (trigger : Bool) : AdMap :=
  match readPage page with
  | .ok ads => if trigger && policy.ingests && policy.allows url then ads else Table.empty
  | .error _ => Table.empty

def viewedEarly (c : ReplayCommand) : List String := if c.isEarly then c.views else []

section Requests

variable (x : Setup)

/-- Views requested before the ads of a tab are known wait for them, in their order. -/
theorem requestAll_parks (tab : String) (views : List String) (p : Pipeline) (h : (p.sessions.slot tab).ads = none) :
    ((requestAll x tab views p).line tab).map (·.ad) =
        (p.line tab).map (·.ad) ++ (if x.gate.reports p.center then views else []) ∧
      (requestAll x tab views p).source = p.source ∧ (requestAll x tab views p).center = p.center := by
  induction views generalizing p with
  | nil => simp [requestAll]
  | cons id views ih =>
    cases hr : x.gate.reports p.center with
    | false =>
      have hp := Pipeline.request_unreported x p tab id hr
      have hads : ((p.request x tab id).1.sessions.slot tab).ads = none := by rw [hp]; exact h
      have hcenter : (p.request x tab id).1.center = p.center := by rw [hp]; rfl
      have hsource : (p.request x tab id).1.source = p.source := by rw [hp]; rfl
      have hline : (p.request x tab id).1.line tab = p.line tab := by rw [hp]; rfl
      obtain ⟨hl, hs, hc⟩ := ih (p.request x tab id).1 hads
      rw [hcenter, hline, hr] at hl
      exact ⟨hl, hs.trans hsource, hc.trans hcenter⟩
    | true =>
      obtain ⟨hads, hsource, hcenter⟩ := Pipeline.request_parks_frame x p id hr h
      obtain ⟨-, hline⟩ := Pipeline.request_parks x p id hr h
      obtain ⟨hl, hs, hc⟩ := ih (p.request x tab id).1 hads
      rw [hcenter, hline, if_pos rfl, hr] at hl
      exact ⟨by simpa [requestAll] using hl, hs.trans hsource, hc.trans hcenter⟩

end Requests

variable (policy : Policy.Snapshot) (page : WebPage) (url : Url) (c : ReplayCommand) (tab : String)

def readied : Pipeline :=
  requestAll (replaySetup policy) tab (viewedEarly c)
    ((Pipeline.start (.ofSnapshot policy) none).setPage tab (some page) .none)

theorem adsIngested_eq :
    (replay policy page url c tab).1.adsIngested =
      (((readied policy page c tab).ingestNow (replaySetup policy) tab url c.trigger).sessions.adCount tab).getD 0 := by
  cases he : c.isEarly <;> simp [replay, readied, viewedEarly, he, requestAll]

/-- While the policy does not let views be reported, nothing is ingested either. -/
theorem ingested_of_not_reports (h : policy.reports = false) (trigger : Bool) :
    ingested policy page url trigger = Table.empty := by
  have hi : policy.ingests = false := by
    have ha : policy.adsEnabled = false := h
    simp [Policy.Snapshot.ingests, ha]
  unfold ingested
  split
  · simp [hi]
  · rfl

theorem found_eq_ingested (trigger : Bool) :
    Pipeline.found (some page) (trigger && (replaySetup policy).gate.admits (.ofSnapshot policy) url) =
      ingested policy page url trigger := by
  have hadmits : (replaySetup policy).gate.admits (.ofSnapshot policy) url = (policy.ingests && policy.allows url) := rfl
  rw [hadmits, Pipeline.found, Pipeline.adsOfPage, ingested, ← Bool.and_assoc]
  simp only [Option.map_some, Option.getD_some, adsOf]
  cases readPage page with
  | ok ads => rfl
  | error e => simp

/-- the pipeline of a replay, when its document is served and nothing else has happened -/
def served : Pipeline := (Pipeline.start (.ofSnapshot policy) none).setPage tab (some page) .none

theorem served_delay : (served policy page tab).source.delay tab = .none := by
  simp [served, Pipeline.setPage, Pipeline.Source.delay, Pipeline.Source.setDelay, Table.find?_insert]

theorem served_page : (served policy page tab).source.page? tab = some page := by
  simp [served, Pipeline.setPage, Pipeline.Source.page?, Pipeline.Source.setPage, Pipeline.Source.setDelay,
    Table.find?_insert]

/-- When the ingestion is over, the tab has the ads that were ingested, without those viewed early. -/
theorem readied_ads :
    (((readied policy page c tab).ingestNow (replaySetup policy) tab url c.trigger).sessions.slot tab).ads =
      some ((viewedEarly c).foldl Table.erase (ingested policy page url c.trigger)) := by
  set x := replaySetup policy
  set p := served policy page tab
  have hads : (p.sessions.slot tab).ads = none := rfl
  have hempty : p.line tab = [] := rfl
  obtain ⟨hline, hsource, hcenter⟩ := requestAll_parks x tab (viewedEarly c) p hads
  have h := Pipeline.ingestNow_ads x (readied policy page c tab) url c.trigger (hsource ▸ served_delay policy page tab)
  have hfound := found_eq_ingested policy page url c.trigger
  have hreports : x.gate.reports (.ofSnapshot policy) = policy.reports := rfl
  have hc : (readied policy page c tab).center = .ofSnapshot policy := hcenter
  have hs : (readied policy page c tab).source.page? tab = some page := hsource ▸ served_page policy page tab
  rw [hempty] at hline
  rw [h, hc, hs, hfound, hreports]
  cases hr : policy.reports with
  | false => simp [ingested_of_not_reports policy page url hr, Table.foldl_erase_empty]
  | true =>
    have hwaiting : ((readied policy page c tab).line tab).map (·.ad) = viewedEarly c := by
      have hp : x.gate.reports p.center = true := hr
      rw [if_pos hp] at hline
      exact hline
    rw [hwaiting, if_pos rfl]

/-- the ads ingested that nobody viewed early, by their ids -/
def unviewed (ads : AdMap) (early : List String) : List String := ads.keys.filter fun id => id ∉ early

theorem size_foldl_erase (ads : AdMap) (ids : List String) :
    (ids.foldl Table.erase ads).size = (unviewed ads ids).length := by
  rw [Table.size, Table.foldl_erase_entries, unviewed, Table.keys, List.filter_map, List.length_map]
  rfl

/-- All ads are counted exactly if none of them was viewed early. -/
theorem length_unviewed_iff (ads : AdMap) (early : List String) :
    (unviewed ads early).length = ads.size ↔ ∀ id ∈ ads.keys, id ∉ early := by
  have hsize : ads.size = ads.keys.length := (List.length_map _).symm
  rw [hsize, unviewed, List.length_filter_eq_length_iff]
  simp

/-- What is counted are the ads ingested that nobody viewed early. -/
theorem adsIngested_unviewed :
    (replay policy page url c tab).1.adsIngested =
      (unviewed (ingested policy page url c.trigger) (viewedEarly c)).length := by
  rw [adsIngested_eq, Tab.Sessions.adCount, readied_ads, ← size_foldl_erase]
  rfl

/-- **A replay counts the ads it ingested, without those viewed early.** Whatever the policy, the document, the URL, the
flags and the views: the count is that of the ads the document was accepted with, if the ingestion was allowed, less those of
them whose views were requested early. So it is the number of ads ingested if and only if none of them was viewed early; in
particular, whatever is viewed, when views are requested afterwards. -/
theorem replay_adsIngested :
    (replay policy page url c tab).1.adsIngested =
        (unviewed (ingested policy page url c.trigger) (viewedEarly c)).length ∧
      ((replay policy page url c tab).1.adsIngested = (ingested policy page url c.trigger).size ↔
        ∀ id ∈ (ingested policy page url c.trigger).keys, id ∉ viewedEarly c) ∧
      (c.isEarly = false → (replay policy page url c tab).1.adsIngested = (ingested policy page url c.trigger).size) := by
  have hcount := adsIngested_unviewed policy page url c tab
  have hall : (replay policy page url c tab).1.adsIngested = (ingested policy page url c.trigger).size ↔
      ∀ id ∈ (ingested policy page url c.trigger).keys, id ∉ viewedEarly c := by
    rw [hcount, length_unviewed_iff]
  refine ⟨hcount, hall, fun he => hall.2 fun id _ => ?_⟩
  simp [viewedEarly, he]

/-- a URL that the built-in policy allows -/
def searchUrl : Url :=
  ⟨"https".toList, [], [], some (.domain "search.brave.com".toList), none, .segments ["search".toList],
    some "q=replay".toList, none⟩

/-- The document has one ad, its ingestion is allowed, and its view is requested early: none is counted. -/
theorem early_view_uncounted :
    (ingested .start (samplePage [sampleAd "ad"]) searchUrl true).size = 1 ∧
      (replay .start (samplePage [sampleAd "ad"]) searchUrl ⟨"", "", ["ad"], true, true, false⟩ "tab").1.adsIngested =
        0 := by
  have hkeys : (ingested .start (samplePage [sampleAd "ad"]) searchUrl true).keys = ["ad"] := by decide +kernel
  constructor
  · rw [← List.length_singleton (a := "ad"), ← hkeys]
    exact (List.length_map _).symm
  · rw [adsIngested_unviewed, unviewed, hkeys]
    simp [viewedEarly]

end AdConfirm.Cli
