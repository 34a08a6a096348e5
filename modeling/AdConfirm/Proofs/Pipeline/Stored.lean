import AdConfirm.Proofs.Pipeline.Line
import AdConfirm.Proofs.Table

/-!
The ads that a tab is left with when an ingestion of it completes.

A completion stores the ads it found and answers those who waited out of them, so who waited has taken its ad already when
the completion is over.

- `finish_ads`: an accepted completion leaves its tab the ads it stored, without those that somebody waited for.
- `ingestNow_ads`: so does a whole ingestion that does not have to wait for its document.
-/

namespace AdConfirm.Pipeline

open AdConfirm.Tab (Ticket Waiting)

variable (x : Setup) (p : Pipeline)

/-- Those who are handed back together take their ads if views are reported. -/
theorem answer_fold_ads (isReporting : Bool) {tab : String} {ads : AdMap} (ws : List Waiting)
    (h : (p.sessions.slot tab).ads = some ads) :
    ((ws.foldl (answer isReporting tab) p).sessions.slot tab).ads =
      some (if isReporting then (ws.map (·.ad)).foldl Table.erase ads else ads) := by
  induction ws generalizing p ads with
  | nil => simp [h]
  | cons w ws ih =>
    cases isReporting with
    | false => exact ih (answer false tab p w) h
    | true =>
      have hads : ((answer true tab p w).sessions.slot tab).ads = some (ads.erase w.ad) := by
        simp [answer, note, settleRequest, resolve_sessions, Tab.Sessions.take_slot, h]
      exact ih (answer true tab p w) hads

theorem answerAll_ads (isReporting : Bool) {tab : String} {ads : AdMap} (ws : List Waiting)
    (h : (p.sessions.slot tab).ads = some ads) :
    ((p.answerAll isReporting tab ws).sessions.slot tab).ads =
      some (if isReporting then (ws.map (·.ad)).foldl Table.erase ads else ads) := by
  by_cases he : ws.isEmpty
  · simp [answerAll, List.isEmpty_iff.1 he, h]
  · simp only [answerAll, if_neg he, adopt_sessions]
    exact answer_fold_ads { p with queue := p.queue.openSection } isReporting ws h

/-- An accepted completion leaves its tab the ads it stored, without those that somebody waited for. -/
theorem finish_ads {t : Ticket} (ads : AdMap) (h : p.sessions.isCurrent t = true) :
    ((finish x p t ads).sessions.slot t.tab).ads =
      some (if x.gate.reports p.center then ((p.line t.tab).map (·.ad)).foldl Table.erase ads else ads) := by
  have hads : ((stocked p t ads).sessions.slot t.tab).ads = some ads := by rw [stocked_slot ads h, if_pos rfl]
  rw [finish_eq ads h]
  exact answerAll_ads (stocked p t ads) _ _ hads

/-- A request for a tab whose ads are not known leaves them unknown, and the documents as they are. -/
theorem request_parks_frame {tab : String} (id : String) (h : x.gate.reports p.center = true)
    (ha : (p.sessions.slot tab).ads = none) :
    ((Pipeline.request x p tab id).1.sessions.slot tab).ads = none ∧
      (Pipeline.request x p tab id).1.source = p.source ∧ (Pipeline.request x p tab id).1.center = p.center := by
  rw [request_waits x p id h ha]
  refine ⟨?_, rfl, rfl⟩
  simp only [note, p.sessions.park_slot ⟨p.requests.length, id⟩ ha, if_true, ha]

/-- the ads that an ingestion finds: those of the document, if it is admitted -/
def found (page : Option WebPage) (isAdmitted : Bool) : AdMap := if isAdmitted then adsOfPage page else Table.empty

/-- An ingestion that does not have to wait for its document is over at once; until it ends it takes notes, and dispatches
nothing. -/
theorem ingestNow_prompt {tab : String} (url : Url) (trigger : Bool) (h : p.source.delay tab = .none) :
    ∃ notes : List (Nat × Note), (∀ n ∈ notes, ∀ d, n.2 ≠ .dispatch d) ∧
      ingestNow x p tab url trigger =
        finish x { p with sessions := (p.sessions.begin tab).1, journal := notes ++ p.journal } (p.sessions.begin tab).2
          (found (p.source.page? tab) (trigger && x.gate.admits p.center url)) := by
  cases hadmit : trigger && x.gate.admits p.center url with
  | false =>
    refine ⟨[(p.agenda.now, .gatedOff (p.sessions.begin tab).2 url.print trigger)], by simp, ?_⟩
    simp [ingestNow, begin, hadmit, proceed, found, note]
  | true =>
    have htab : (p.sessions.begin tab).2.tab = tab := rfl
    refine ⟨[(p.agenda.now, .fetched (p.sessions.begin tab).2 (p.source.page? tab)),
      (p.agenda.now, .fetching (p.sessions.begin tab).2)], by simp, ?_⟩
    simp [ingestNow, begin, hadmit, proceed, found, note, Source.ask, htab, h, conclude, Source.conclude]

/-- the attempt that just began is the current one -/
theorem isCurrent_begin (s : Tab.Sessions) (tab : String) : (s.begin tab).1.isCurrent (s.begin tab).2 = true := by
  have hslot := s.begin_slot tab tab
  rw [if_pos rfl] at hslot
  exact beq_iff_eq.2 (congrArg Tab.Slot.inFlight hslot)

theorem begin_pending (s : Tab.Sessions) (tab j : String) : ((s.begin tab).1.slot j).pending = (s.slot j).pending := by
  rw [Tab.Sessions.begin_slot]
  split_ifs <;> rfl

/-- After an ingestion that does not have to wait, its tab has the ads that were found, without those that somebody waited
for. -/
theorem ingestNow_ads {tab : String} (url : Url) (trigger : Bool) (h : p.source.delay tab = .none) :
    ((ingestNow x p tab url trigger).sessions.slot tab).ads =
      some (if x.gate.reports p.center
        then ((p.line tab).map (·.ad)).foldl Table.erase (found (p.source.page? tab) (trigger && x.gate.admits p.center url))
        else found (p.source.page? tab) (trigger && x.gate.admits p.center url)) := by
  obtain ⟨notes, -, hfinish⟩ := ingestNow_prompt x p url trigger h
  rw [hfinish]
  have hads := finish_ads x { p with sessions := (p.sessions.begin tab).1, journal := notes ++ p.journal }
    (found (p.source.page? tab) (trigger && x.gate.admits p.center url)) (isCurrent_begin p.sessions tab)
  rw [line, begin_pending] at hads
  exact hads

end AdConfirm.Pipeline
