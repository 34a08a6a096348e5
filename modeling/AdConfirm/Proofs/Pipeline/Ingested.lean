import AdConfirm.Ad.Sample
import AdConfirm.Proofs.Pipeline.Chronicle
import AdConfirm.Proofs.Pipeline.LawfulRuns
import AdConfirm.Proofs.Pipeline.Stored
import AdConfirm.Proofs.Pipeline.AdMoves

/-!
What ingestion attempts find, and what their tabs have of it.

Whether an attempt may ask for its page is decided when it begins. When it ends it knows whether the page has come in time, and
if it is still the current one of its tab, its ads are what the tab has from then on, until they are taken, the tab is reset, or
another attempt ends so.

- `Ends.ads_of_inTime`, `Ends.ads_of_late`: the ads of a page that came in time, and none otherwise.
- `perform_ad?`, `ad?_since`: where the ads of a tab come from.
- `attempts_ingest`: all of this, of every run.
-/

namespace AdConfirm.Pipeline

open AdConfirm.Tab (Ticket Waiting Sessions)

section Defs

variable (x : Setup) (p₀ : Pipeline)

/-- the task of the attempt has had a turn: the attempt asked for its page in it, or ended -/
def Ran (es : List Event) (t : Ticket) : Prop := .ask t ∈ es ∨ Done es t

/-- the page that the attempt asked for came at this time, which was not after the limit -/
def InTime (es : List Event) (t : Ticket) (time : Nat) : Prop :=
  ∃ since promise, AskedAt x p₀ es t since promise ∧ Came x p₀ es t since promise time ∧ time ≤ since + x.fetchLimit

/-- an attempt ends as the current one of the tab, with this ad under the id -/
def Stores (tab id : String) (ad : AdRecord) (before : List Event) (e : Event) : Prop :=
  ∃ t ads, e = .finish t ads ∧ t.tab = tab ∧ (play x p₀ before).sessions.isCurrent t = true ∧ ads.find? id = some ad

/-- what the tab had is gone: the tab is reset, or an attempt ends as its current one -/
def Clears (tab : String) (before : List Event) (e : Event) : Prop :=
  e = .reset tab ∨ ∃ t ads, e = .finish t ads ∧ t.tab = tab ∧ (play x p₀ before).sessions.isCurrent t = true

end Defs

variable {x : Setup} {p₀ p q : Pipeline} {es : List Event} {t : Ticket} {tab id : String} {ad : AdRecord}
  {dropped : List Ticket}

/-! ## What an attempt finds -/

theorem Lawful.of_append {fs : List Event} (h : Lawful x p₀ (es ++ fs)) : Lawful x p₀ es := by
  rintro before e after rfl
  exact h before e (after ++ fs) (by simp)

/-- A page comes once. -/
theorem Came.unique {since time time' : Nat} {promise : Promise} (h : Came x p₀ es t since promise time)
    (h' : Came x p₀ es t since promise time')
    (once : ∀ time time', LetGo x p₀ es t time → LetGo x p₀ es t time' → time = time') : time = time' := by
  cases promise with
  | within ms => exact Eq.trans h (Eq.symm h')
  | onRelease => exact once time time' h h'
  | never => exact h.elim

section Ends

variable {ads : AdMap}

/-- An attempt whose page came in time ends when it comes, with the ads of the page. -/
theorem Ends.ads_of_inTime (h : Ends x p₀ es t ads) (lawful : Lawful x p₀ es)
    (once : ∀ time time', LetGo x p₀ es t time → LetGo x p₀ es t time' → time = time') {time : Nat}
    (hin : InTime x p₀ es t time) :
    (play x p₀ es).agenda.now = time ∧ ads = adsOfPage ((play x p₀ es).source.page? t.tab) := by
  obtain ⟨since, promise, hasked, hcame, hle⟩ := hin
  cases h with
  | gatedOff _ unasked => exact absurd hasked.mem unasked
  | cutOff asked missing now =>
    obtain ⟨rfl, rfl⟩ := lawful.askedAt_unique asked hasked
    have hlate := missing time hcame
    omega
  | arrived asked came inTime now =>
    obtain ⟨rfl, rfl⟩ := lawful.askedAt_unique asked hasked
    exact ⟨now.trans (came.unique hcame once), rfl⟩

/-- An attempt whose page did not come in time ends without ads, as one does that was not allowed to ask. -/
theorem Ends.ads_of_late (h : Ends x p₀ es t ads) (late : ∀ time, ¬ InTime x p₀ es t time) : ads = Table.empty := by
  cases h with
  | gatedOff => rfl
  | cutOff => rfl
  | arrived asked came inTime now => exact absurd ⟨_, _, asked, came, inTime⟩ (late _)

/-- Only an attempt that was allowed to ask ends with ads. -/
theorem Ends.began_of_find? (h : Ends x p₀ es t ads) (lawful : Lawful x p₀ es) (found : ads.find? id = some ad) :
    Began x p₀ es t true := by
  cases h with
  | gatedOff => cases found
  | cutOff => cases found
  | arrived asked => exact lawful.began_of_ask asked.mem

end Ends

/-- Once no task is ready, every attempt that began has run, but for those that are never run. -/
theorem UnderWay.ran (h : UnderWay x p₀ es dropped [] none) (hquiet : (play x p₀ es).agenda.isQuiet = true) {ok : Bool}
    (hbegan : Began x p₀ es t ok) (ht : t ∉ dropped) : Ran es t := by
  have hready : (play x p₀ es).underway.ready = [] := by
    rw [underway, Agenda.pick, List.isEmpty_iff.1 hquiet]
    rfl
  rcases h.accounted t ok hbegan with hdone | hmem
  · exact .inr hdone
  · have htask : t ∈ (play x p₀ es).underway.tasks.map (·.1) := (List.mem_append.1 hmem).resolve_left ht
    rw [Agenda.tasks, hready, List.nil_append] at htask
    obtain ⟨⟨u, s⟩, hu, rfl⟩ := List.mem_map.1 htask
    obtain ⟨z, hz, hzu⟩ := List.mem_map.1 hu
    obtain ⟨v, a, due, rfl, hsleeps, -⟩ := h.asleep z hz
    cases hzu
    exact .inl hsleeps.waits.mem

/-! ## What its tab has of it -/

theorem Moved.ad?_of_some {j i : String} (h : Moved p j i q) (had : q.sessions.ad? tab id = some ad) :
    p.sessions.ad? tab id = some ad := by
  rw [h.ads] at had
  split_ifs at had
  exact had

/-- Answering those who wait gives ads away, and none to a tab. -/
theorem answer_fold_ad? (isReporting : Bool) (j : String) (ws : List Waiting) (p : Pipeline)
    (had : (ws.foldl (answer isReporting j) p).sessions.ad? tab id = some ad) : p.sessions.ad? tab id = some ad := by
  induction ws generalizing p with
  | nil => exact had
  | cons w ws ih =>
    have hrest := ih (answer isReporting j p w) had
    cases isReporting with
    | false => exact (answer_kept p j w).1.ads tab id ▸ hrest
    | true =>
      obtain ⟨q, hmoved, hkept, -⟩ := answer_moved p j w
      exact hmoved.ad?_of_some (hkept.ads tab id ▸ hrest)

/-- What a tab has after an event was stored by it, or the tab had it before and was not cleared. -/
theorem ad?_snoc {e : Event} (had : (play x p₀ (es ++ [e])).sessions.ad? tab id = some ad) :
    Stores x p₀ tab id ad es e ∨ ((play x p₀ es).sessions.ad? tab id = some ad ∧ ¬ Clears x p₀ tab es e) := by
  rw [play_snoc] at had
  have keep (hbefore : (play x p₀ es).sessions.ad? tab id = some ad) (hreset : e ≠ .reset tab)
      (hfinish : ∀ t ads, e = .finish t ads → t.tab = tab → (play x p₀ es).sessions.isCurrent t = false) :
      Stores x p₀ tab id ad es e ∨ ((play x p₀ es).sessions.ad? tab id = some ad ∧ ¬ Clears x p₀ tab es e) := by
    refine .inr ⟨hbefore, ?_⟩
    rintro (he | ⟨t, ads, he, htab, hcurrent⟩)
    · exact hreset he
    · rw [hfinish t ads he htab] at hcurrent
      cases hcurrent
  have still (quiet : e.handlesAds (play x p₀ es) = false) : (play x p₀ es).sessions.ad? tab id = some ad :=
    (perform_quiet (x := x) quiet).ads tab id ▸ had
  cases e with
  | request j i =>
    refine keep ?_ (by simp) (by simp)
    cases request_requested x (play x p₀ es) j i with
    | refused _ _ quiet => exact quiet.ads tab id ▸ had
    | waits _ _ _ quiet => exact quiet.ads tab id ▸ had
    | answered _ _ moved => exact moved.ad?_of_some had
  | resolve j i => exact keep ((resolve_moved _ j i).ad?_of_some had) (by simp) (by simp)
  | reset j =>
    have hads := (reset_quiet (play x p₀ es) j).ads tab id
    rw [Sessions.reset_ad?] at hads
    rw [perform, hads] at had
    split_ifs at had with hj
    exact keep had (fun he => hj (Event.reset.inj he)) (by simp)
  | finish t ads =>
    cases hcurrent : (play x p₀ es).sessions.isCurrent t with
    | false =>
      refine keep (still hcurrent) (by simp) ?_
      rintro u ads' ⟨⟩ -
      exact hcurrent
    | true =>
      obtain ⟨q, hq, hslot, hend⟩ := finish_stages (x := x) ads hcurrent
      have hstored := answer_fold_ad? _ _ _ q (hend.ads tab id ▸ had)
      by_cases htab : t.tab = tab
      · refine .inl ⟨t, ads, rfl, htab, hcurrent, ?_⟩
        rw [← htab, Sessions.ad?, hslot] at hstored
        exact hstored
      · rw [hq.ads, Sessions.ad?, stocked_slot ads hcurrent, if_neg htab] at hstored
        refine keep hstored (by simp) ?_
        rintro u ads' ⟨⟩ heq
        exact absurd heq htab
  | _ => exact keep (still rfl) (by simp) (by simp)

/-- What a tab has was stored by an attempt, and the tab was not cleared since. -/
theorem ad?_since (c : Policy.Center) (capacity : Option Nat) (es : List Event)
    (had : (play x (start c capacity) es).sessions.ad? tab id = some ad) :
    Since (Stores x (start c capacity) tab id ad) (Clears x (start c capacity) tab) es := by
  induction es using List.reverseRecOn with
  | nil =>
    have hempty : (start c capacity).sessions = .empty := by
      unfold start
      cases capacity <;> rfl
    rw [play, List.foldl_nil, hempty] at had
    cases had
  | append_singleton es e ih => exact since_snoc.2 ((ad?_snoc had).imp_right fun h => ⟨ih h.1, h.2⟩)

/-- The journal of a run tells of ingestion attempts what the events of its history did. -/
theorem Recounts.chronicle {c : Policy.Center} {capacity : Option Nat} {ops : List Op}
    (h : Recounts x (start c capacity) ops es dropped) :
    (Pipeline.run x (start c capacity) ops).chronicle =
      yields (fun before e => e.entries x (play x (start c capacity) before)) [] es := by
  have hempty : (start c capacity).chronicle = [] := by
    unfold start
    cases capacity <;> rfl
  rw [h.run, chronicle_play, hempty, List.nil_append]

/-- **Attempts that were allowed when they began ask for their page, and no others; what a tab has is what its current
attempts found.** Every run is a play of events, in which its operations from outside occur in their order, and no other calls;
its journal tells of ingestion attempts what these events did, and nothing else; the attempts of `ingestNever` are the only ones
that are never run. Every attempt began once, and it was decided then whether it was allowed to ask for its page: whether it was
to be triggered, views were reported and confirmed, and the URL was allowed. Once an attempt has run, it has asked for its page
just in case it was allowed, whatever has become of the policy since; and when no task is ready, all attempts have run. An
attempt whose page came not after the limit ends when it comes, with the ads of the page, of which there are none if there is no
document or it is rejected; every other attempt ends without ads. If it is still the current one of its tab, its ads are stored,
those who wait take theirs if views are reported, and the tab is left with known ads and nobody who waits. And an ad that a tab
has was found by an attempt that was allowed when it began and ended as the current one, and since then the tab was neither
reset nor given the ads of another attempt. -/
theorem attempts_ingest (x : Setup) (c : Policy.Center) (capacity : Option Nat) (ops : List Op) :
    ∃ (es : List Event) (dropped : List Ticket), let p₀ := start c capacity
      (run x p₀ ops = play x p₀ es ∧ (ops.filterMap Op.event?).Sublist es ∧
        es.filter Event.isCall = (ops.filterMap Op.event?).filter Event.isCall ∧
        (run x p₀ ops).chronicle = yields (fun before e => e.entries x (play x p₀ before)) [] es ∧
        dropped.map (·.tab) = ops.filterMap Op.neverRun?) ∧
      ((∀ t, Ran es t → t ∉ dropped ∧ ∃ isAllowed, Began x p₀ es t isAllowed) ∧
        (∀ t isAllowed, Began x p₀ es t isAllowed → Ran es t → (.ask t ∈ es ↔ isAllowed = true)) ∧
        ((run x p₀ ops).agenda.isQuiet = true → ∀ t isAllowed, Began x p₀ es t isAllowed → t ∉ dropped → Ran es t)) ∧
      (∀ before t ads after, es = before ++ .finish t ads :: after →
        (∀ time, InTime x p₀ before t time → (play x p₀ before).agenda.now = time ∧
          ads = adsOfPage ((play x p₀ before).source.page? t.tab)) ∧
        ((∀ time, ¬ InTime x p₀ before t time) → ads = Table.empty) ∧
        ((play x p₀ before).sessions.isCurrent t = true →
          ((play x p₀ (before ++ [.finish t ads])).sessions.slot t.tab).ads =
            some (if x.gate.reports (play x p₀ before).center
              then (((play x p₀ before).line t.tab).map (·.ad)).foldl Table.erase ads else ads) ∧
          (play x p₀ (before ++ [.finish t ads])).line t.tab = [])) ∧
      ∀ tab id ad, (run x p₀ ops).sessions.ad? tab id = some ad →
        Since (fun before e => Stores x p₀ tab id ad before e ∧ ∀ t ads, e = .finish t ads → Began x p₀ before t true)
          (Clears x p₀ tab) es := by
  obtain ⟨es, dropped, h⟩ := run_recounts x c capacity ops
  have lawful := h.underWay.lawful
  refine ⟨es, dropped, ⟨h.run, h.calls_in_order, h.no_other_calls, h.chronicle, h.never_run⟩, ⟨?_, ?_, ?_⟩, ?_, ?_⟩
  · intro t hran
    refine ⟨fun ht => ?_, ?_⟩
    · obtain ⟨hunasked, hundone⟩ := h.underWay.idle t (List.mem_reverse.2 ht)
      exact hran.elim hunasked hundone
    · rcases hran with hask | hdone
      · exact ⟨true, lawful.began_of_ask hask⟩
      · exact lawful.began_of_done hdone
  · exact fun t isAllowed hbegan hran => lawful.asked_iff hran hbegan
  · intro hquiet t isAllowed hbegan ht
    rw [h.run] at hquiet
    exact h.underWay.ran hquiet hbegan fun hmem => ht (List.mem_reverse.1 hmem)
  · rintro before t ads after rfl
    obtain ⟨-, hends⟩ := lawful before _ after rfl
    have once : ∀ time time', LetGo x _ before t time → LetGo x _ before t time' → time = time' := fun time time' hgo hgo' =>
      h.underWay.fetches.once t time time' (hgo.append _) (hgo'.append _)
    refine ⟨fun time hin => hends.ads_of_inTime lawful.of_append once hin, hends.ads_of_late, fun hcurrent => ?_⟩
    rw [play_snoc]
    refine ⟨finish_ads x _ ads hcurrent, ?_⟩
    exact ((finish_accepted x _ ads hcurrent).2 t.tab).trans (if_pos rfl)
  · intro tab id ad had
    rw [h.run] at had
    obtain ⟨before, e, after, rfl, hstores, hkept⟩ := ad?_since c capacity es had
    refine ⟨before, e, after, rfl, ⟨hstores, ?_⟩, hkept⟩
    rintro t ads rfl
    obtain ⟨u, ads', heq, -, -, hfind⟩ := hstores
    cases heq
    exact (lawful before _ after rfl).2.began_of_find? lawful.of_append hfind

/-- a page comes just at the limit, and views are not reported any more then -/
def switchedOff : List Op :=
  [.setPage "tab" (some (samplePage [sampleAd "ad"])) (.after 10000),
    .ingest "tab" ⟨"https".toList, [], [], some (.domain "search.brave.com".toList), none, .segments [], none, none⟩ true,
    .settle, .apply ⟨"ads.enabled", .bool false, "ops", "test", 60⟩, .advance 10000]

theorem attempts_ingest_switched_off :
    let x : Setup := .withoutPolicy .live .prompt
    let p₀ := start (.ofSnapshot .start) none
    (run x p₀ switchedOff).center.watched.reports = false ∧ ∃ ad es, run x p₀ switchedOff = play x p₀ es ∧
      Since (fun before e => Stores x p₀ "tab" "ad" ad before e ∧ ∀ t ads, e = .finish t ads → Began x p₀ before t true)
        (Clears x p₀ "tab") es := by
  intro x p₀
  obtain ⟨ad, had⟩ : ∃ ad, (run x p₀ switchedOff).sessions.ad? "tab" "ad" = some ad :=
    Option.isSome_iff_exists.1 (by decide +kernel)
  obtain ⟨es, dropped, ⟨hrun, -⟩, -, -, horigin⟩ := attempts_ingest x (.ofSnapshot .start) none switchedOff
  exact ⟨by decide +kernel, ad, es, hrun, horigin "tab" "ad" ad had⟩

end AdConfirm.Pipeline
