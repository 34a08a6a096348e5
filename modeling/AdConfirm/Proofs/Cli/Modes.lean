import AdConfirm.Proofs.Ad.Page
import AdConfirm.Proofs.Cli.Replay
import AdConfirm.Proofs.Pipeline.Gathered

/-!
Two ways to replay a document.

Views requested early wait, and the ingestion answers them when it completes; views requested afterwards are answered at
once. Both report the same and send the same to the reporter.

- `requestAll_refused`, `requestAll_waiting`, `requestAll_granted`: what views requested one after the other come to.
- `early_replayed`, `late_replayed`: both ways leave the same decisions, and the same ads to go out.
- `replay_modes_agree`: what a replay reports, whichever way the views are requested.
-/

namespace AdConfirm.Cli

open AdConfirm.Pipeline (Setup Gathered granted grantedAds drainOf)

/-! ## Views requested one after the other -/

section Requests

variable {x : Setup} {p : Pipeline} {n : Nat} {tasks : List Pipeline.Task} {gathered : List AdRecord} (tab : String)

theorem requestAll_refused (views : List String) (hr : x.gate.reports p.center = false)
    (hg : Gathered p n tasks gathered) :
    (requestAll x tab views p).requests = p.requests ++ views.map (fun _ => .decided false) ∧
      (requestAll x tab views p).sections = p.sections ∧ (requestAll x tab views p).line tab = p.line tab ∧
      Gathered (requestAll x tab views p) n tasks gathered := by
  induction views generalizing p with
  | nil => exact ⟨by simp [requestAll], rfl, rfl, hg⟩
  | cons id views ih =>
    have heq := Pipeline.request_unreported x p tab id hr
    have hcenter : (p.request x tab id).1.center = p.center := by rw [heq]; rfl
    obtain ⟨hrequests, hsections, hline, hgathered⟩ := ih (hcenter ▸ hr) (hg.unreported tab id hr)
    refine ⟨?_, hsections.trans (by rw [heq]; rfl), hline.trans (by rw [heq]; rfl), hgathered⟩
    refine hrequests.trans ?_
    rw [heq]
    simp

theorem requestAll_waiting (views : List String) (hr : x.gate.reports p.center = true)
    (ha : (p.sessions.slot tab).ads = none) (hg : Gathered p n tasks gathered) :
    (requestAll x tab views p).requests = p.requests ++ views.map (fun _ => .waiting) ∧
      (requestAll x tab views p).line tab = p.line tab ++ views.mapIdx (fun i id => ⟨p.requests.length + i, id⟩) ∧
      Gathered (requestAll x tab views p) n tasks gathered := by
  induction views generalizing p with
  | nil => exact ⟨by simp [requestAll], by simp [requestAll], hg⟩
  | cons id views ih =>
    obtain ⟨hrequest, hline⟩ := Pipeline.request_parks x p id hr ha
    obtain ⟨hads, -, hcenter⟩ := Pipeline.request_parks_frame x p id hr ha
    obtain ⟨hrequests, hlines, hgathered⟩ := ih (hcenter ▸ hr) hads (hg.waits id hr ha)
    refine ⟨hrequests.trans ?_, hlines.trans ?_, hgathered⟩
    · rw [hrequest]
      simp
    · rw [hline, if_pos rfl, hrequest]
      simp [List.mapIdx_cons, Nat.add_assoc, Nat.add_comm 1]

theorem requestAll_granted (views : List String) {ads : AdMap} (hr : x.gate.reports p.center = true)
    (ha : (p.sessions.slot tab).ads = some ads) (hg : Gathered p (n + 1) [] gathered) :
    (requestAll x tab views p).requests = p.requests ++ (granted ads views).map .decided ∧
      (requestAll x tab views p).sections = p.sections ∧
      Gathered (requestAll x tab views p) (n + 1) [] (gathered ++ grantedAds ads views) := by
  induction views generalizing p ads gathered with
  | nil => exact ⟨by simp [requestAll, granted], rfl, by simpa [requestAll, grantedAds] using hg⟩
  | cons id views ih =>
    have hsome : (p.sessions.slot tab).ads.isSome := by rw [ha]; rfl
    have heq := Pipeline.request_ready x p id hr hsome
    obtain ⟨hcenter, hsections⟩ := p.resolve_frame tab id
    have hfound : p.sessions.ad? tab id = ads.find? id := by simp [Tab.Sessions.ad?, ha]
    have hcontains : p.sessions.containsAd tab id = ads.contains id := by simp [Tab.Sessions.containsAd, ha]
    have hads : ((p.request x tab id).1.sessions.slot tab).ads = some (ads.erase id) := by
      rw [heq]
      simp [Pipeline.resolve_sessions, Tab.Sessions.take_slot, ha]
    have hr' : x.gate.reports (p.request x tab id).1.center = true := by rw [heq]; exact hcenter ▸ hr
    obtain ⟨hrequests, hsections', hgathered⟩ := ih hr' hads (hfound ▸ hg.ready id hr hsome)
    refine ⟨hrequests.trans ?_, hsections'.trans ?_, ?_⟩
    · rw [heq, hcontains]
      simp [granted]
    · rw [heq]
      exact hsections
    · rwa [List.append_assoc] at hgathered

end Requests

/-! ## Both ways to replay -/

section Modes

variable (policy : Policy.Snapshot) (page : WebPage) (url : Url) (trigger : Bool) (views : List String) (tab : String)

/-- The ingestion of a replay answers those who wait for it. -/
theorem ingestNow_gathered {p : Pipeline} (hg : Gathered p 0 [] []) (hsource : p.source = (served policy page tab).source)
    (hcenter : p.center = .ofSnapshot policy) (hr : policy.reports = true ∨ p.line tab = []) :
    let waiting := (p.line tab).map (·.ad)
    let ads := ingested policy page url trigger
    (p.ingestNow (replaySetup policy) tab url trigger).requests =
        Pipeline.settled p.requests (Pipeline.answers policy.reports ads (p.line tab)) ∧
      Gathered (p.ingestNow (replaySetup policy) tab url trigger) 0 (drainOf (grantedAds ads waiting))
        (grantedAds ads waiting) := by
  obtain ⟨notes, hnotes, hfinish⟩ := Pipeline.ingestNow_prompt (replaySetup policy) p url trigger
    (hsource ▸ served_delay policy page tab)
  have hfound : Pipeline.found (p.source.page? tab) (trigger && (replaySetup policy).gate.admits p.center url) =
      ingested policy page url trigger := by
    rw [hsource, served_page, hcenter, found_eq_ingested]
  rw [hfound] at hfinish
  set q : Pipeline := { p with sessions := (p.sessions.begin tab).1, journal := notes ++ p.journal }
  have hq : Gathered q 0 [] [] := hg.congr rfl rfl (Pipeline.reported_append hnotes rfl)
  have hcurrent : q.sessions.isCurrent (p.sessions.begin tab).2 = true := Pipeline.isCurrent_begin p.sessions tab
  have hline : q.line tab = p.line tab := Pipeline.begin_pending p.sessions tab tab
  have hreports : (replaySetup policy).gate.reports q.center = policy.reports := rfl
  have hrequests := (Pipeline.finish_accepted (replaySetup policy) q (ingested policy page url trigger) hcurrent).1
  have hgathered := hq.finish (x := replaySetup policy) (ingested policy page url trigger) hcurrent (hline ▸ hr)
  have htab : (p.sessions.begin tab).2.tab = tab := rfl
  rw [htab, hline] at hgathered
  rw [hreports, htab, hline] at hrequests
  intro waiting ads
  rw [hfinish]
  exact ⟨hrequests, hgathered⟩

/-- all views are answered as who asks for the ads ingested one after the other, and the ads that they got wait together -/
structure Replayed (p : Pipeline) : Prop where
  requests : p.requests = (granted (ingested policy page url trigger) views).map .decided
  gathered : Gathered p 0 (drainOf (grantedAds (ingested policy page url trigger) views))
    (grantedAds (ingested policy page url trigger) views)

theorem served_gathered : Gathered (served policy page tab) 0 [] [] :=
  (Pipeline.gathered_start (.ofSnapshot policy)).congr rfl rfl rfl

/-- Views requested early have been answered when the ingestion is over. -/
theorem early_replayed :
    Replayed policy page url trigger views
      ((requestAll (replaySetup policy) tab views (served policy page tab)).ingestNow (replaySetup policy) tab url trigger) := by
  set p := served policy page tab
  have hads : (p.sessions.slot tab).ads = none := rfl
  have hg : Gathered p 0 [] [] := served_gathered policy page tab
  obtain ⟨hwaiting, hsource, hcenter⟩ := requestAll_parks (replaySetup policy) tab views p hads
  cases hr : policy.reports with
  | false =>
    obtain ⟨hrequests, -, hline, hgathered⟩ := requestAll_refused (x := replaySetup policy) tab views hr hg
    obtain ⟨hall, hads⟩ := ingestNow_gathered policy page url trigger tab hgathered hsource hcenter (.inr hline)
    have hempty := ingested_of_not_reports policy page url hr trigger
    rw [hline, hempty] at hads hall
    refine ⟨?_, ?_⟩
    · calc _
        _ = (requestAll (replaySetup policy) tab views p).requests := hall
        _ = views.map fun _ => .decided false := hrequests
        _ = (granted (ingested policy page url trigger) views).map .decided := by
          rw [hempty, Pipeline.granted_empty, List.map_map]
          rfl
    · rw [hempty, Pipeline.grantedAds_empty]
      exact hads
  | true =>
    obtain ⟨hrequests, hline, hgathered⟩ := requestAll_waiting (x := replaySetup policy) tab views hr hads hg
    obtain ⟨hall, hads⟩ := ingestNow_gathered policy page url trigger tab hgathered hsource hcenter (.inl hr)
    have hreports : (replaySetup policy).gate.reports p.center = true := hr
    rw [hreports, if_pos rfl] at hwaiting
    refine ⟨?_, ?_⟩
    · calc _
        _ = Pipeline.settled (views.map fun _ => .waiting) (Pipeline.answers true (ingested policy page url trigger)
            (views.mapIdx fun i id => ⟨0 + i, id⟩)) := by
          rw [hall, hrequests, hline, hr]
          rfl
        _ = (granted (ingested policy page url trigger) views).map .decided := Pipeline.settled_granted [] _ views
    · rw [hwaiting] at hads
      exact hads

/-- Views requested in an open section, after the ingestion, are answered at once. -/
theorem requestAll_known {p : Pipeline} (hg : Gathered p 1 [] [])
    (ha : (p.sessions.slot tab).ads = some (ingested policy page url trigger)) :
    (requestAll (replaySetup policy) tab views p).requests =
        p.requests ++ (granted (ingested policy page url trigger) views).map .decided ∧
      (requestAll (replaySetup policy) tab views p).sections = p.sections ∧
      Gathered (requestAll (replaySetup policy) tab views p) 1 [] (grantedAds (ingested policy page url trigger) views) := by
  cases hr : policy.reports with
  | true => exact requestAll_granted (x := replaySetup policy) tab views hr ha hg
  | false =>
    obtain ⟨hrequests, hsections, -, hgathered⟩ := requestAll_refused (x := replaySetup policy) tab views hr hg
    rw [ingested_of_not_reports policy page url hr trigger, Pipeline.granted_empty, Pipeline.grantedAds_empty, List.map_map]
    exact ⟨hrequests, hsections, hgathered⟩

theorem late_replayed :
    Replayed policy page url trigger views
      (requestTogether (replaySetup policy) tab views
        ((served policy page tab).ingestNow (replaySetup policy) tab url trigger)) := by
  set x := replaySetup policy
  obtain ⟨hall, hg⟩ := ingestNow_gathered policy page url trigger tab (served_gathered policy page tab) rfl rfl (.inr rfl)
  set q := (served policy page tab).ingestNow x tab url trigger
  have hopen : Gathered q.openSection.1 1 [] [] := hg.opened.congr rfl rfl rfl
  have hknown : (q.openSection.1.sessions.slot tab).ads = some (ingested policy page url trigger) :=
    readied_ads policy page url ⟨"", "", views, false, trigger, false⟩ tab
  obtain ⟨hrequests, hsections, hgathered⟩ := requestAll_known policy page url trigger views tab hopen hknown
  have hsection : (requestAll x tab views q.openSection.1).sections[q.sections.length]? = some true := by
    rw [hsections]
    simp [Pipeline.openSection]
  obtain ⟨hclosed, hkept⟩ := hgathered.closeSection hsection
  have hnone : q.openSection.1.requests = [] := hall
  rw [hnone, List.nil_append] at hrequests
  exact ⟨hkept.trans hrequests, hclosed⟩

/-- What a replay reports of its views, whichever way they are requested. -/
theorem replay_views (c : ReplayCommand) :
    (replay policy page url c tab).1.views =
        c.views.zip ((granted (ingested policy page url c.trigger) c.views).map .decided) ∧
      (replay policy page url c tab).1.dispatched = (granted (ingested policy page url c.trigger) c.views).count true ∧
      (replay policy page url c tab).1.dispatchFailures = 0 ∧
      (replay policy page url c tab).2.reported = (grantedAds (ingested policy page url c.trigger) c.views).reverse := by
  have hboth : ∃ p, Replayed policy page url c.trigger c.views p ∧
      (replay policy page url c tab).2 = (Pipeline.loop (replaySetup policy)).settle p := by
    cases he : c.isEarly with
    | true => exact ⟨_, early_replayed policy page url c.trigger c.views tab, by simp [replay, he, served]⟩
    | false => exact ⟨_, late_replayed policy page url c.trigger c.views tab, by simp [replay, he, served]⟩
  obtain ⟨p, hp, hend⟩ := hboth
  obtain ⟨hreported, hsucceeded, hfailed, hrequests⟩ := hp.gathered.settle (x := replaySetup policy) rfl
  rw [← hend] at hreported hsucceeded hfailed hrequests
  refine ⟨?_, ?_, hfailed, hreported⟩
  · exact congrArg c.views.zip (hrequests.trans hp.requests)
  · exact hsucceeded.trans (Pipeline.grantedAds_length _ _)

/-- a view is confirmed: views are reported, the page may be asked for its ads, its document is accepted with an ad of this
id, and no view before it has the same id -/
structure IsConfirmed (c : ReplayCommand) (i : Nat) (id : String) : Prop where
  reports : policy.reports = true
  admitted : c.trigger = true ∧ policy.ingests = true ∧ policy.allows url = true
  listed : ∃ ads, readPage page = .ok ads ∧ ∃ r ∈ ads.values, r.creativeInstanceId = id
  first : id ∉ c.views.take i

/-- The ads of a page have the ids that they are listed under. -/
theorem contains_iff_listed {ads : AdMap} (h : readPage page = .ok ads) (id : String) :
    ads.contains id = true ↔ ∃ r ∈ ads.values, r.creativeInstanceId = id := by
  rw [Table.contains, Option.isSome_iff_exists]
  constructor
  · rintro ⟨r, hr⟩
    exact ⟨r, List.mem_map.2 ⟨(id, r), Table.mem_entries_iff.2 hr, rfl⟩, id_of_readPage h hr⟩
  · rintro ⟨r, hr, hid⟩
    obtain ⟨⟨k, r'⟩, hentry, rfl⟩ := List.mem_map.1 hr
    have hfound := Table.mem_entries_iff.1 hentry
    have hk : k = id := (id_of_readPage h hfound).symm.trans hid
    exact ⟨r', hk ▸ hfound⟩

/-- An ad that is ingested is that of the document. -/
theorem find?_ingested {id : String} (h : (ingested policy page url trigger).contains id = true) :
    (ingested policy page url trigger).find? id = (adsOf page).find? id := by
  unfold ingested adsOf at *
  cases hread : readPage page with
  | error e => rfl
  | ok ads =>
    rw [hread] at h
    split_ifs at h ⊢
    · rfl
    · cases h

theorem isConfirmed_iff (c : ReplayCommand) (i : Nat) (id : String) :
    IsConfirmed policy page url c i id ↔
      ((ingested policy page url c.trigger).contains id && decide (id ∉ c.views.take i)) = true := by
  rw [Bool.and_eq_true_iff, decide_eq_true_eq]
  constructor
  · rintro ⟨-, ⟨ht, hi, hu⟩, ⟨ads, hread, hlisted⟩, hfirst⟩
    refine ⟨?_, hfirst⟩
    simp only [ingested, hread, ht, hi, hu, Bool.and_self, if_true]
    exact (contains_iff_listed page hread id).2 hlisted
  · rintro ⟨hc, hfirst⟩
    unfold ingested at hc
    split at hc
    · next ads hread =>
      split_ifs at hc with hadmitted
      · simp only [Bool.and_eq_true] at hadmitted
        obtain ⟨⟨ht, hi⟩, hu⟩ := hadmitted
        exact ⟨(Bool.and_eq_true_iff.1 hi).1, ⟨ht, hi, hu⟩, ⟨ads, hread, (contains_iff_listed page hread id).1 hc⟩, hfirst⟩
      · cases hc
    · cases hc

/-- Every view is decided, and confirmed as it should be. -/
theorem decided_view (c : ReplayCommand) {i : Nat} {id : String} {a : Pipeline.Answer}
    (h : (c.views.zip ((granted (ingested policy page url c.trigger) c.views).map .decided))[i]? = some (id, a)) :
    ∃ b, a = .decided b ∧ triggeredTree a = .bool b ∧ faultTree a = .null ∧
      (b = true ↔ IsConfirmed policy page url c i id) := by
  obtain ⟨hid, ha⟩ : c.views[i]? = some id ∧ _ = some a := List.getElem?_zip_eq_some.1 h
  rw [List.getElem?_map, Pipeline.granted_getElem?, hid] at ha
  obtain rfl := Option.some.inj ha
  exact ⟨_, rfl, rfl, rfl, (isConfirmed_iff policy page url c i id).symm⟩

/-- The views that are confirmed, and the ads that they get. -/
theorem confirmed_ads :
    (grantedAds (ingested policy page url trigger) views).map some =
      ((views.zip ((granted (ingested policy page url trigger) views).map Pipeline.Answer.decided)).filter
        fun v => v.2 = .decided true).map fun v => (adsOf page).find? v.1 := by
  have hsame : (fun v : String × Pipeline.Answer => decide (v.2 = .decided true)) ∘ Prod.map id Pipeline.Answer.decided =
      Prod.snd := by
    funext v
    simp
  rw [Pipeline.grantedAds_eq, List.zip_map_right, List.filter_map, hsame, List.map_map]
  refine List.map_congr_left fun v hv => ?_
  obtain ⟨hmem, hgranted⟩ := List.mem_filter.1 hv
  exact find?_ingested policy page url trigger (Pipeline.contains_of_granted hmem hgranted)

/-- **Both ways to replay report the same.** Whatever the policy, the document, the URL, the flags and the views: whether the
views are requested before the ingestion or after it, each of them is decided, and confirmed exactly if views are reported,
the page may be asked for its ads, the document is accepted with an ad of this id and no view before it has the same id. As
many ads are dispatched as views are confirmed, none in vain, and the reporter gets the ads of these views, that of the last
of them first. -/
theorem replay_modes_agree (c : ReplayCommand) :
    (∀ early : Bool,
      let r := replay policy page url { c with isEarly := early } tab
      r.1.views.map (·.1) = c.views ∧
        (∀ i id a, r.1.views[i]? = some (id, a) →
          ∃ b, a = .decided b ∧ triggeredTree a = .bool b ∧ faultTree a = .null ∧
            (b = true ↔ IsConfirmed policy page url c i id)) ∧
        r.1.dispatched = r.1.views.countP (fun v => v.2 = .decided true) ∧ r.1.dispatchFailures = 0 ∧
        r.2.reported.reverse.map some =
          (r.1.views.filter fun v => v.2 = .decided true).map fun v => (adsOf page).find? v.1) ∧
      let early := replay policy page url { c with isEarly := true } tab
      let late := replay policy page url { c with isEarly := false } tab
      early.1.views = late.1.views ∧ early.1.dispatched = late.1.dispatched ∧
        early.1.dispatchFailures = late.1.dispatchFailures ∧ early.2.reported = late.2.reported := by
  have hlength : c.views.length = ((granted (ingested policy page url c.trigger) c.views).map
      Pipeline.Answer.decided).length := by
    rw [List.length_map, Pipeline.granted_length]
  constructor
  · intro early
    obtain ⟨hviews, hdispatched, hfailures, hreported⟩ := replay_views policy page url tab { c with isEarly := early }
    have hads := confirmed_ads policy page url c.trigger c.views
    refine ⟨?_, ?_, ?_, hfailures, ?_⟩
    · rw [hviews]
      exact List.map_fst_zip hlength.le
    · intro i id a hi
      rw [hviews] at hi
      exact decided_view policy page url c hi
    · rw [hdispatched, hviews, List.countP_eq_length_filter]
      calc (granted (ingested policy page url c.trigger) c.views).count true
        _ = (grantedAds (ingested policy page url c.trigger) c.views).length := (Pipeline.grantedAds_length _ _).symm
        _ = ((grantedAds (ingested policy page url c.trigger) c.views).map some).length := (List.length_map _).symm
        _ = _ := by rw [hads, List.length_map]
    · rw [hreported, List.reverse_reverse, hviews]
      exact hads
  · obtain ⟨hviews, hdispatched, hfailures, hreported⟩ := replay_views policy page url tab { c with isEarly := true }
    obtain ⟨hviews', hdispatched', hfailures', hreported'⟩ := replay_views policy page url tab { c with isEarly := false }
    exact ⟨hviews.trans hviews'.symm, hdispatched.trans hdispatched'.symm, hfailures.trans hfailures'.symm,
      hreported.trans hreported'.symm⟩

end Modes

end AdConfirm.Cli
