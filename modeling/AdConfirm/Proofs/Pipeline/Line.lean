import AdConfirm.Proofs.Pipeline.Event
import AdConfirm.Proofs.Tab.Slot

/-!
The lines of requests that wait, and what every event does to them.

Who waits for the ads of a tab stands in the line of the tab, in order of arrival.

- `settled_of_ne`, `settled_of_waiting`: settling requests gives each that waits its first answer, and changes no other.
- `perform_sessions`: most events leave the tabs alone.
- `answers_lookup`: how one in a line is answered when an ingestion stores the ads of its tab.
- `perform_change`: an event adds an answered request, or one that waits at the end of a line; or settles the one request
  that its maker gave up; or clears the line of one tab and settles all who stood in it, by the ads of an accepted
  completion or as abandoned by a reset; or leaves all requests and lines alone.
-/

namespace AdConfirm.Pipeline

open AdConfirm.Tab (Ticket Waiting)

/-- the requests that wait for the ads of a tab, in order of arrival -/
def line (p : Pipeline) (tab : String) : List Waiting := (p.sessions.slot tab).pending

/-- requests settled one after the other, each if it still waits -/
def settled (rs : List Answer) (as : List (Nat × Answer)) : List Answer :=
  as.foldl (fun rs a => rs.modify a.1 fun old => if old = .waiting then a.2 else old) rs

/-- how those in a line are answered by the ads of their tab: an ad goes to the first who asked for it -/
def answers (isReporting : Bool) : AdMap → List Waiting → List (Nat × Answer)
  | _, [] => []
  | ads, w :: ws =>
    (w.key, .decided (isReporting && ads.contains w.ad)) ::
      answers isReporting (if isReporting then ads.erase w.ad else ads) ws

/-- how those in the line of a tab are abandoned -/
def abandons (tab : String) (ws : List Waiting) : List (Nat × Answer) := ws.map fun w => (w.key, .abandoned tab)

theorem line_congr {p q : Pipeline} (h : q.sessions = p.sessions) (tab : String) : q.line tab = p.line tab := by
  rw [line, line, h]

/-! ## Settling requests -/

section Settled

variable {rs : List Answer} {as : List (Nat × Answer)}

theorem settled_cons (rs : List Answer) (a : Nat × Answer) (as : List (Nat × Answer)) :
    settled rs (a :: as) = settled (settled rs [a]) as := rfl

@[simp] theorem settled_length (rs : List Answer) (as : List (Nat × Answer)) : (settled rs as).length = rs.length := by
  induction as generalizing rs with
  | nil => rfl
  | cons a as ih => rw [settled_cons, ih]; simp [settled]

theorem settled_single (rs : List Answer) (a : Nat × Answer) (key : Nat) :
    (settled rs [a])[key]? = if a.1 = key ∧ rs[key]? = some .waiting then some a.2 else rs[key]? := by
  simp only [settled, List.foldl_cons, List.foldl_nil, List.getElem?_modify]
  by_cases hk : a.1 = key
  · subst hk
    cases hr : rs[a.1]? with
    | none => simp
    | some old => by_cases ho : old = .waiting <;> simp [ho]
  · cases hr : rs[key]? <;> simp [hk]

/-- an answer once given stays -/
theorem settled_of_ne {key : Nat} (h : rs[key]? ≠ some .waiting) : (settled rs as)[key]? = rs[key]? := by
  induction as generalizing rs with
  | nil => rfl
  | cons a as ih =>
    have hs : (settled rs [a])[key]? = rs[key]? := by rw [settled_single, if_neg fun hn => h hn.2]
    rw [settled_cons, ih (hs ▸ h), hs]

/-- a request that waits gets the first answer there is for it -/
theorem settled_of_waiting {key : Nat} (h : rs[key]? = some .waiting) (hw : ∀ a ∈ as, a.2 ≠ .waiting) :
    (settled rs as)[key]? = some ((as.lookup key).getD .waiting) := by
  induction as generalizing rs with
  | nil => exact h
  | cons a as ih =>
    obtain ⟨k, v⟩ := a
    have hs := settled_single rs (k, v) key
    rw [settled_cons]
    by_cases hk : k = key
    · subst hk
      rw [if_pos ⟨rfl, h⟩] at hs
      have hv : v ≠ .waiting := hw _ List.mem_cons_self
      rw [settled_of_ne (by simp [hs, hv]), hs]
      simp
    · rw [if_neg fun hn => hk hn.1] at hs
      rw [ih (hs ▸ h) fun a ha => hw a (List.mem_cons_of_mem _ ha)]
      have hb : (key == k) = false := by simpa using Ne.symm hk
      simp [List.lookup_cons, hb]

end Settled

theorem answers_keys (isReporting : Bool) (ads : AdMap) (ws : List Waiting) :
    (answers isReporting ads ws).map Prod.fst = ws.map (·.key) := by
  induction ws generalizing ads with
  | nil => rfl
  | cons w ws ih => simp [answers, ih]

theorem answers_final (isReporting : Bool) (ads : AdMap) (ws : List Waiting) :
    ∀ a ∈ answers isReporting ads ws, a.2 ≠ .waiting := by
  induction ws generalizing ads with
  | nil => simp [answers]
  | cons w ws ih =>
    intro a ha
    rcases List.mem_cons.1 ha with rfl | ha
    · simp
    · exact ih _ a ha

theorem abandons_keys (tab : String) (ws : List Waiting) : (abandons tab ws).map Prod.fst = ws.map (·.key) := by
  simp [abandons]

theorem abandons_final (tab : String) (ws : List Waiting) : ∀ a ∈ abandons tab ws, a.2 ≠ .waiting := by
  simp [abandons]

theorem abandons_lookup {tab : String} {ws : List Waiting} {w : Waiting} (h : w ∈ ws) :
    (abandons tab ws).lookup w.key = some (.abandoned tab) := by
  induction ws with
  | nil => exact absurd h List.not_mem_nil
  | cons v ws ih =>
    rw [abandons, List.map_cons, List.lookup_cons]
    by_cases hk : w.key = v.key
    · simp [hk]
    · have hw : w ∈ ws := (List.mem_cons.1 h).resolve_left fun he => hk (he ▸ rfl)
      have hb : (w.key == v.key) = false := by simpa using hk
      rw [hb]
      exact ih hw

/-- One in a line gets its ad if views are reported, the ad is there, and nobody before it asked for the same. -/
theorem answers_lookup (isReporting : Bool) (ads : AdMap) {earlier : List Waiting} (w : Waiting) (later : List Waiting)
    (h : ∀ v ∈ earlier, v.key ≠ w.key) :
    (answers isReporting ads (earlier ++ w :: later)).lookup w.key =
      some (.decided (isReporting && ads.contains w.ad && !earlier.any (·.ad = w.ad))) := by
  induction earlier generalizing ads with
  | nil => simp [answers]
  | cons v earlier ih =>
    have hv : (w.key == v.key) = false := by simpa using Ne.symm (h v List.mem_cons_self)
    rw [List.cons_append, answers, List.lookup_cons, hv]
    simp only
    rw [ih _ fun u hu => h u (List.mem_cons_of_mem _ hu)]
    cases isReporting with
    | false => simp
    | true =>
      by_cases ha : v.ad = w.ad
      · simp [Table.contains_erase, ha]
      · simp [Table.contains_erase, ha]

/-! ## What the parts of an event do -/

section Parts

variable (x : Setup) (p : Pipeline)

theorem adopt_sessions (q : Dispatch.Queue × Bool) : (p.adopt q).sessions = p.sessions := by
  unfold adopt
  split <;> rfl

theorem adopt_requests (q : Dispatch.Queue × Bool) : (p.adopt q).requests = p.requests := by
  unfold adopt
  split <;> rfl

theorem resolve_sessions (tab id : String) : (p.resolve tab id).1.sessions = (p.sessions.take tab id).1 := by
  unfold resolve
  split
  · next s h =>
    have hs := p.sessions.take_of_none (by rw [h])
    exact hs.symm
  · next s ad h => simp only [note, adopt_sessions, h]

theorem resolve_requests (tab id : String) : (p.resolve tab id).1.requests = p.requests := by
  unfold resolve
  split
  · rfl
  · simp only [note, adopt_requests]

theorem resolve_frame (tab id : String) :
    (p.resolve tab id).1.center = p.center ∧ (p.resolve tab id).1.sections = p.sections := by
  unfold resolve
  split
  · exact ⟨rfl, rfl⟩
  · simp only [note, adopt]
    split_ifs <;> exact ⟨rfl, rfl⟩

theorem resolve_result (tab id : String) : (p.resolve tab id).2 = p.sessions.containsAd tab id := by
  rw [← Tab.Sessions.take_isSome]
  unfold resolve
  split
  · next s h => simp [h]
  · next s ad h => simp [h]

theorem resolve_line (tab id j : String) : (p.resolve tab id).1.line j = p.line j := by
  simp only [line, resolve_sessions, Tab.Sessions.take_slot]
  split_ifs <;> rfl

theorem settleRequest_requests (key : Nat) (a : Answer) :
    (p.settleRequest key a).requests = settled p.requests [(key, a)] := rfl

/-- Those who are handed back together are answered in their order, from the ads as each finds them. -/
theorem answer_fold (isReporting : Bool) {tab : String} {ads : AdMap} (ws : List Waiting)
    (h : (p.sessions.slot tab).ads = some ads) :
    (ws.foldl (answer isReporting tab) p).requests = settled p.requests (answers isReporting ads ws) ∧
      ∀ j, (ws.foldl (answer isReporting tab) p).line j = p.line j := by
  induction ws generalizing p ads with
  | nil => exact ⟨rfl, fun _ => rfl⟩
  | cons w ws ih =>
    rw [List.foldl_cons, answers, settled_cons]
    cases isReporting with
    | false =>
      have hads : ((answer false tab p w).sessions.slot tab).ads = some ads := h
      exact ih (answer false tab p w) hads
    | true =>
      have hads : ((answer true tab p w).sessions.slot tab).ads = some (ads.erase w.ad) := by
        simp [answer, note, settleRequest, resolve_sessions, Tab.Sessions.take_slot, h]
      obtain ⟨hr, hl⟩ := ih (answer true tab p w) hads
      have hc : (p.resolve tab w.ad).2 = ads.contains w.ad := by
        simp [resolve_result, Tab.Sessions.containsAd, h]
      refine ⟨?_, fun j => (hl j).trans (p.resolve_line tab w.ad j)⟩
      rw [hr]
      simp only [answer, if_true, settleRequest_requests, note, resolve_requests, hc, Bool.true_and]

theorem answerAll_spec (isReporting : Bool) {tab : String} {ads : AdMap} (ws : List Waiting)
    (h : (p.sessions.slot tab).ads = some ads) :
    (p.answerAll isReporting tab ws).requests = settled p.requests (answers isReporting ads ws) ∧
      ∀ j, (p.answerAll isReporting tab ws).line j = p.line j := by
  unfold answerAll
  split_ifs with he
  · rw [List.isEmpty_iff.1 he]
    exact ⟨rfl, fun _ => rfl⟩
  · obtain ⟨hr, hl⟩ := answer_fold { p with queue := p.queue.openSection } isReporting ws h
    exact ⟨by rw [adopt_requests, hr], fun j => (line_congr (adopt_sessions _ _) j).trans (hl j)⟩

/-- an accepted completion has stored its ads, and will answer those who waited -/
def stocked (p : Pipeline) (t : Ticket) (ads : AdMap) : Pipeline :=
  { p with sessions := (p.sessions.complete t ads).1 }.note (.stored t ads (p.line t.tab))

theorem stocked_slot {p : Pipeline} {t : Ticket} (ads : AdMap) (h : p.sessions.isCurrent t = true) (j : String) :
    (stocked p t ads).sessions.slot j = if t.tab = j then ⟨none, some ads, []⟩ else p.sessions.slot j := by
  have hslot := p.sessions.complete_slot t ads j
  simp only [h, true_and] at hslot
  exact hslot

theorem finish_eq {x : Setup} {p : Pipeline} {t : Ticket} (ads : AdMap) (h : p.sessions.isCurrent t = true) :
    finish x p t ads =
      ((stocked p t ads).answerAll (x.gate.reports p.center) t.tab (p.line t.tab)).fireHooks t.tab := by
  have hresult := p.sessions.complete_result t ads
  unfold finish stocked
  generalize p.sessions.complete t ads = c at hresult
  obtain ⟨s, r⟩ := c
  simp only [h, if_true] at hresult
  subst hresult
  rfl

/-- A completion that comes too late leaves a note, and calls the hooks of its tab all the same. -/
theorem finish_late {x : Setup} {p : Pipeline} {t : Ticket} (ads : AdMap) (h : p.sessions.isCurrent t = false) :
    finish x p t ads =
      (Pipeline.note { p with sessions := (p.sessions.complete t ads).1 } (.late t)).fireHooks t.tab := by
  have hresult := p.sessions.complete_result t ads
  unfold finish
  generalize p.sessions.complete t ads = c at hresult
  obtain ⟨s, r⟩ := c
  simp only [h, Bool.false_eq_true, if_false] at hresult
  subst hresult
  rfl

/-- An accepted completion answers the whole line of its tab and clears it. -/
theorem finish_accepted {t : Ticket} (ads : AdMap) (h : p.sessions.isCurrent t = true) :
    (finish x p t ads).requests = settled p.requests (answers (x.gate.reports p.center) ads (p.line t.tab)) ∧
      ∀ j, (finish x p t ads).line j = if t.tab = j then [] else p.line j := by
  have hads : ((stocked p t ads).sessions.slot t.tab).ads = some ads := by rw [stocked_slot ads h, if_pos rfl]
  obtain ⟨hr, hl⟩ := answerAll_spec (stocked p t ads) (x.gate.reports p.center) (p.line t.tab) hads
  rw [finish_eq ads h]
  refine ⟨hr, fun j => (hl j).trans ?_⟩
  rw [line, stocked_slot ads h]
  split_ifs <;> rfl

/-- A completion that comes too late settles nobody. -/
theorem finish_refused {t : Ticket} (ads : AdMap) (h : p.sessions.isCurrent t = false) :
    (finish x p t ads).requests = p.requests ∧ ∀ j, (finish x p t ads).line j = p.line j := by
  have hslot := p.sessions.complete_slot t ads
  simp only [h, Bool.false_eq_true, false_and, if_false] at hslot
  rw [finish_late ads h]
  exact ⟨rfl, fun j => congrArg Tab.Slot.pending (hslot j)⟩

theorem settle_fold (tab : String) (ws : List Waiting) :
    (ws.foldl (fun p w => p.settleRequest w.key (.abandoned tab)) p).requests = settled p.requests (abandons tab ws) ∧
      (ws.foldl (fun p w => p.settleRequest w.key (.abandoned tab)) p).sessions = p.sessions := by
  induction ws generalizing p with
  | nil => exact ⟨rfl, rfl⟩
  | cons w ws ih => exact ih (p.settleRequest w.key (.abandoned tab))

/-- A reset forgets its tab. -/
theorem reset_sessions (tab : String) : (p.reset tab).sessions = (p.sessions.reset tab).1 := by
  simp only [reset]
  split_ifs
  · rfl
  · rw [(settle_fold _ tab _).2]
    rfl

/-- An attempt begins. -/
theorem begin_sessions (tab : String) (url : Url) (trigger : Bool) :
    (Pipeline.begin x p tab url trigger).1.sessions = (p.sessions.begin tab).1 := by
  simp only [Pipeline.begin]
  split_ifs <;> rfl

/-- A reset abandons the whole line of its tab and clears it. -/
theorem reset_spec (tab : String) :
    (p.reset tab).requests = settled p.requests (abandons tab (p.line tab)) ∧
      ∀ j, (p.reset tab).line j = if tab = j then [] else p.line j := by
  have hslot := p.sessions.reset_slot tab
  have hdropped := p.sessions.reset_dropped tab
  have hline : ∀ j, ((p.sessions.reset tab).1.slot j).pending = if tab = j then [] else p.line j := by
    intro j
    rw [hslot]
    split_ifs <;> rfl
  unfold reset
  generalize p.sessions.reset tab = c at hdropped hline
  obtain ⟨s, dropped⟩ := c
  simp only at hdropped hline
  subst hdropped
  simp only
  split_ifs with he
  · exact ⟨by rw [line, List.isEmpty_iff.1 he]; rfl, hline⟩
  · obtain ⟨hr, hs⟩ := settle_fold (Pipeline.note { p with sessions := s } (.abandoned tab (p.line tab))) tab (p.line tab)
    exact ⟨hr, fun j => (line_congr hs j).trans (hline j)⟩

/-- A request is refused when views are not reported, and nothing else happens to it. -/
theorem request_unreported (tab id : String) (h : x.gate.reports p.center = false) :
    (Pipeline.request x p tab id).1 =
      { p.note (.unreported tab id) with requests := p.requests ++ [.decided false] } := by
  simp only [Pipeline.request, h, Bool.not_false, if_true]
  rfl

/-- A request is decided by the ads of its tab if they are known. -/
theorem request_ready {tab : String} (id : String) (h : x.gate.reports p.center = true)
    (ha : (p.sessions.slot tab).ads.isSome) :
    (Pipeline.request x p tab id).1 =
      { (p.resolve tab id).1 with requests := p.requests ++ [.decided (p.sessions.containsAd tab id)] } := by
  have hpark := p.sessions.park_result tab ⟨p.requests.length, id⟩
  have hresolve := p.resolve_requests tab id
  have hresult := p.resolve_result tab id
  simp only [Pipeline.request, h, Bool.not_true, Bool.false_eq_true, if_false]
  generalize p.sessions.park tab ⟨p.requests.length, id⟩ = c at hpark
  generalize p.resolve tab id = d at hresolve hresult
  obtain ⟨s, parking⟩ := c
  rw [if_pos ha] at hpark
  simp only at hpark
  subst hpark
  simp only [hresolve, hresult]

/-- A request is parked if the ads of its tab are not known, and waits. -/
theorem request_waits {tab : String} (id : String) (h : x.gate.reports p.center = true)
    (ha : (p.sessions.slot tab).ads = none) :
    (Pipeline.request x p tab id).1 =
      { Pipeline.note { p with sessions := (p.sessions.park tab ⟨p.requests.length, id⟩).1 }
          (.parked tab ⟨p.requests.length, id⟩) with requests := p.requests ++ [.waiting] } := by
  have hpark := p.sessions.park_result tab ⟨p.requests.length, id⟩
  simp only [Pipeline.request, h, Bool.not_true, Bool.false_eq_true, if_false]
  generalize p.sessions.park tab ⟨p.requests.length, id⟩ = c at hpark
  obtain ⟨s, parking⟩ := c
  simp only [ha, Option.isSome_none, Bool.false_eq_true, if_false] at hpark
  subst hpark
  rfl

/-- A request waits, last in its line, if the ads of its tab are not known. -/
theorem request_parks {tab : String} (id : String) (h : x.gate.reports p.center = true)
    (ha : (p.sessions.slot tab).ads = none) :
    (Pipeline.request x p tab id).1.requests = p.requests ++ [.waiting] ∧
      ∀ j, (Pipeline.request x p tab id).1.line j =
        if tab = j then p.line j ++ [⟨p.requests.length, id⟩] else p.line j := by
  rw [request_waits x p id h ha]
  refine ⟨rfl, fun j => ?_⟩
  simp only [line, note, p.sessions.park_slot ⟨p.requests.length, id⟩ ha]
  split_ifs <;> rfl

end Parts

/-! ## What an event does -/

/-- the request that an event makes: its tab and its ad -/
def Event.asks? : Event → Option (String × String)
  | .request tab id => some (tab, id)
  | _ => none

/-- whether an event leaves all requests and lines alone -/
def Event.isAside (p : Pipeline) : Event → Bool
  | .request _ _ => false
  | .forget _ => false
  | .reset _ => false
  | .finish t _ => !p.sessions.isCurrent t
  | _ => true

/-- what an event can do to the requests and the lines -/
inductive Change (x : Setup) (p q : Pipeline) : Event → Prop where
  | answered {tab id : String} (b : Bool) (requests : q.requests = p.requests ++ [.decided b])
      (lines : ∀ j, q.line j = p.line j) : Change x p q (.request tab id)
  | parked {tab id : String} (requests : q.requests = p.requests ++ [.waiting])
      (lines : ∀ j, q.line j = if tab = j then p.line j ++ [⟨p.requests.length, id⟩] else p.line j) :
      Change x p q (.request tab id)
  | forgotten {key : Nat} (requests : q.requests = settled p.requests [(key, .forgotten)])
      (lines : ∀ j, q.line j = p.line j) : Change x p q (.forget key)
  | completed {t : Ticket} {ads : AdMap} (accepted : p.sessions.isCurrent t = true)
      (requests : q.requests = settled p.requests (answers (x.gate.reports p.center) ads (p.line t.tab)))
      (lines : ∀ j, q.line j = if t.tab = j then [] else p.line j) : Change x p q (.finish t ads)
  | reset {tab : String} (requests : q.requests = settled p.requests (abandons tab (p.line tab)))
      (lines : ∀ j, q.line j = if tab = j then [] else p.line j) : Change x p q (.reset tab)
  | aside {e : Event} (isAside : e.isAside p = true) (requests : q.requests = p.requests)
      (lines : ∀ j, q.line j = p.line j) : Change x p q e

theorem notes_fold (p : Pipeline) (ns : List Dispatch.Note) :
    (ns.foldl (fun p n => p.note (.dispatch n)) p).requests = p.requests ∧
      (ns.foldl (fun p n => p.note (.dispatch n)) p).sessions = p.sessions := by
  induction ns generalizing p with
  | nil => exact ⟨rfl, rfl⟩
  | cons n ns ih => exact ih (p.note (.dispatch n))

def Event.touchesTabs : Event → Bool
  | .begin _ _ _ | .finish _ _ | .request _ _ | .resolve _ _ | .reset _ => true
  | _ => false

theorem perform_sessions {x : Setup} {p : Pipeline} {e : Event} (h : e.touchesTabs = false) :
    (perform x p e).sessions = p.sessions := by
  cases e with
  | begin | finish | request | resolve | reset => cases h
  | release tab =>
    simp only [perform, Pipeline.release]
    split <;> rfl
  | arrive t a =>
    simp only [perform, Pipeline.arrive]
    split <;> rfl
  | closeSection i =>
    simp only [perform, Pipeline.closeSection]
    split
    · exact adopt_sessions _ _
    · rfl
  | apply s =>
    simp only [perform, Pipeline.apply]
    split <;> rfl
  | publish e =>
    simp only [perform, Pipeline.publish?]
    cases p.bus.publish? e <;> rfl
  | receive =>
    simp only [perform, Pipeline.receive]
    split <;> rfl
  | drain d => exact (notes_fold _ _).2
  | _ => rfl

/-- an event that touches neither the requests nor the sessions is aside -/
theorem Change.kept {x : Setup} {p q : Pipeline} {e : Event} (h : e.isAside p = true) (hr : q.requests = p.requests)
    (hs : q.sessions = p.sessions) : Change x p q e :=
  .aside h hr (line_congr hs)

theorem perform_change (x : Setup) (p : Pipeline) (e : Event) : Change x p (perform x p e) e := by
  cases e with
  | request tab id =>
    by_cases hr : x.gate.reports p.center = true
    · cases ha : (p.sessions.slot tab).ads with
      | none =>
        obtain ⟨h, hl⟩ := request_parks x p id hr ha
        exact .parked h hl
      | some ads =>
        have h := request_ready x p id hr (by rw [ha]; rfl)
        exact .answered _ (congrArg requests h) fun j => (congrArg (line · j) h).trans (p.resolve_line tab id j)
    · have h := request_unreported x p tab id (by simpa using hr)
      exact .answered _ (congrArg requests h) fun j => (congrArg (line · j) h).trans rfl
  | forget key => exact .forgotten rfl fun _ => rfl
  | reset tab =>
    obtain ⟨h, hl⟩ := p.reset_spec tab
    exact .reset h hl
  | finish t ads =>
    cases hc : p.sessions.isCurrent t with
    | true =>
      obtain ⟨h, hl⟩ := finish_accepted x p ads hc
      exact .completed hc h hl
    | false =>
      obtain ⟨h, hl⟩ := finish_refused x p ads hc
      exact .aside (by simp [Event.isAside, hc]) h hl
  | resolve tab id => exact .aside rfl (p.resolve_requests tab id) (p.resolve_line tab id)
  | begin tab url trigger =>
    refine .aside rfl ?_ fun j => ?_
    · simp only [perform, Pipeline.begin]
      split_ifs <;> rfl
    · rw [line, perform, begin_sessions, Tab.Sessions.begin_slot]
      split_ifs <;> rfl
  | release tab =>
    refine .kept rfl ?_ (perform_sessions rfl)
    simp only [perform, Pipeline.release]
    split <;> rfl
  | arrive t a =>
    refine .kept rfl ?_ (perform_sessions rfl)
    simp only [perform, Pipeline.arrive]
    split <;> rfl
  | closeSection i =>
    refine .kept rfl ?_ (perform_sessions rfl)
    simp only [perform, Pipeline.closeSection]
    split
    · exact adopt_requests _ _
    · rfl
  | apply s =>
    refine .kept rfl ?_ (perform_sessions rfl)
    simp only [perform, Pipeline.apply]
    split <;> rfl
  | publish e =>
    refine .kept rfl ?_ (perform_sessions rfl)
    simp only [perform, Pipeline.publish?]
    cases p.bus.publish? e <;> rfl
  | receive =>
    refine .kept rfl ?_ (perform_sessions rfl)
    simp only [perform, Pipeline.receive]
    split <;> rfl
  | drain d => exact .kept rfl (notes_fold _ _).1 (perform_sessions rfl)
  | _ => exact .kept rfl rfl rfl

end AdConfirm.Pipeline
