import AdConfirm.Proofs.Dispatch.NewestFirst
import AdConfirm.Proofs.Pipeline.Stored
import AdConfirm.Proofs.Pipeline.AdMoves

/-!
Ads that are queued while a section is open.

They wait until the section closes; then, if the reporter is prompt, one drain hands all of them over, the newest first.

- `granted`, `grantedAds`: who gets an ad, of those who ask one after the other; `settled_granted`: also of those in a line.
- `Gathered`: what is queued and has not gone out. `Gathered.resolve` queues under an open section, `Gathered.close` closes
  it.
- `Gathered.settle`: all that is gathered goes out, the newest first.
-/

namespace AdConfirm.Dispatch

theorem prompt_under (e : Entry) (limit : Nat) : (Reporter.prompt e).under limit = (0, .recorded e.ad.placementId) := by
  simp [Reporter.prompt, Call.under]

/-- what a drain to a prompt reporter does: it hands over all that waits, and every call succeeds -/
structure Emptied (q : Queue) (t : DrainTurn) : Prop where
  started : handedIn t.notes = q.stack.entries
  succeeded : t.queue.counters.succeeded = q.counters.succeeded + q.stack.entries.length
  failed : t.queue.counters.failed = q.counters.failed
  ends : t.next = none

theorem Drains.prompt {limit : Nat} {q : Queue} {t : DrainTurn} (h : Drains Reporter.prompt limit q t)
    (hs : q.sections = 0) : Emptied q t := by
  induction h with
  | held q hq => omega
  | emptied q _ hq => exact ⟨by rw [hq]; rfl, by simp [hq], rfl, rfl⟩
  | broke q e rest _ _ hc => simp [prompt_under] at hc
  | waits q e rest time o _ _ hc ht =>
    rw [prompt_under] at hc
    exact absurd (Prod.mk.inj hc).1.symm ht
  | goesOn q e rest o t _ hq hc ho h ih =>
    rw [prompt_under] at hc
    obtain rfl := (Prod.mk.inj hc).2
    obtain ⟨started, succeeded, failed, ends⟩ := ih hs
    refine ⟨?_, ?_, failed, ends⟩
    · rw [hq]
      exact congrArg (e :: ·) started
    · rw [hq]
      simp only [Queue.finish, Queue.handOver, List.length_cons] at succeeded ⊢
      omega

end AdConfirm.Dispatch

namespace AdConfirm.Pipeline

open AdConfirm.Tab (Ticket Waiting Sessions)

/-! ## Who gets an ad -/

/-- which of some ids get an ad, asked for one after the other: an ad goes to the first who asks for it -/
def granted : AdMap → List String → List Bool
  | _, [] => []
  | ads, id :: ids => ads.contains id :: granted (ads.erase id) ids

/-- the ads that they get -/
def grantedAds : AdMap → List String → List AdRecord
  | _, [] => []
  | ads, id :: ids => (ads.find? id).toList ++ grantedAds (ads.erase id) ids

theorem granted_length (ads : AdMap) (ids : List String) : (granted ads ids).length = ids.length := by
  induction ids generalizing ads with
  | nil => rfl
  | cons id ids ih => simp [granted, ih]

/-- One gets an ad if there is one and nobody asked for it before. -/
theorem granted_getElem? (ads : AdMap) (ids : List String) (i : Nat) :
    (granted ads ids)[i]? = ids[i]?.map fun id => ads.contains id && decide (id ∉ ids.take i) := by
  induction ids generalizing ads i with
  | nil => rfl
  | cons id ids ih =>
    cases i with
    | zero => simp [granted]
    | succ i =>
      simp only [granted, List.getElem?_cons_succ, ih, List.take_succ_cons]
      congr 1
      funext j
      by_cases hj : id = j
      · simp [Table.contains_erase, hj]
      · simp [Table.contains_erase, hj, Ne.symm hj]

theorem granted_empty (ids : List String) : granted Table.empty ids = ids.map fun _ => false := by
  induction ids with
  | nil => rfl
  | cons id ids ih =>
    rw [granted, Table.erase_of_find?_eq_none (Table.find?_empty id), ih]
    rfl

theorem grantedAds_empty (ids : List String) : grantedAds Table.empty ids = [] := by
  induction ids with
  | nil => rfl
  | cons id ids ih => rw [grantedAds, Table.erase_of_find?_eq_none (Table.find?_empty id), ih, Table.find?_empty]; rfl

theorem contains_of_granted {ads : AdMap} {ids : List String} {v : String × Bool} (h : v ∈ ids.zip (granted ads ids))
    (hv : v.2 = true) : ads.contains v.1 = true := by
  induction ids generalizing ads with
  | nil => simp at h
  | cons id ids ih =>
    rw [granted, List.zip_cons_cons] at h
    rcases List.mem_cons.1 h with rfl | h
    · exact hv
    · have hc := ih h
      rw [Table.contains_erase] at hc
      exact (Bool.and_eq_true_iff.1 hc).2

/-- Who gets an ad gets that which is there under its id. -/
theorem grantedAds_eq (ads : AdMap) (ids : List String) :
    (grantedAds ads ids).map some = ((ids.zip (granted ads ids)).filter (·.2)).map fun v => ads.find? v.1 := by
  induction ids generalizing ads with
  | nil => rfl
  | cons id ids ih =>
    have hrest : ((ids.zip (granted (ads.erase id) ids)).filter (·.2)).map (fun v => (ads.erase id).find? v.1) =
        ((ids.zip (granted (ads.erase id) ids)).filter (·.2)).map fun v => ads.find? v.1 := by
      refine List.map_congr_left fun v hv => ?_
      obtain ⟨hmem, hgranted⟩ := List.mem_filter.1 hv
      have hc := contains_of_granted hmem hgranted
      rw [Table.contains_erase, Bool.and_eq_true_iff, decide_eq_true_eq] at hc
      rw [Table.find?_erase, if_neg hc.1]
    rw [granted, grantedAds, List.map_append, ih, hrest, List.zip_cons_cons]
    cases hf : ads.find? id <;> simp [Table.contains, hf]

theorem grantedAds_length (ads : AdMap) (ids : List String) :
    (grantedAds ads ids).length = (granted ads ids).count true := by
  induction ids generalizing ads with
  | nil => rfl
  | cons id ids ih =>
    rw [granted, grantedAds, List.length_append, ih]
    cases hf : ads.find? id <;> simp [Table.contains, hf, Nat.add_comm]

/-- Requests that wait next to each other, answered as one line, are answered as who asks one after the other. -/
theorem settled_granted (rs : List Answer) (ads : AdMap) (ids : List String) :
    settled (rs ++ ids.map fun _ => .waiting) (answers true ads (ids.mapIdx fun i id => ⟨rs.length + i, id⟩)) =
      rs ++ (granted ads ids).map .decided := by
  induction ids generalizing rs ads with
  | nil => simp [granted, answers, settled]
  | cons id ids ih =>
    have hfirst : settled (rs ++ .waiting :: ids.map fun _ => .waiting) [(rs.length, .decided (ads.contains id))] =
        (rs ++ [.decided (ads.contains id)]) ++ ids.map fun _ => .waiting := by
      simp [settled, List.modify_eq_take_cons_drop]
    have hkeys : (ids.mapIdx fun i j => (⟨rs.length + (i + 1), j⟩ : Waiting)) =
        ids.mapIdx fun i j => ⟨(rs ++ [Answer.decided (ads.contains id)]).length + i, j⟩ := by
      simp [Nat.add_comm 1, Nat.add_assoc]
    have hrest := ih (rs ++ [.decided (ads.contains id)]) (ads.erase id)
    rw [List.mapIdx_cons, List.map_cons, answers, settled_cons]
    simp only [Nat.add_zero, Bool.true_and, if_true]
    rw [hfirst, hkeys]
    exact hrest.trans (List.append_assoc rs _ _)

/-! ## What is gathered -/

/-- the ads handed to the reporter, the first first -/
def reported (p : Pipeline) : List AdRecord :=
  p.journal.reverse.filterMap fun n => match n.2 with
    | .dispatch (.started e) => some e.ad
    | _ => none

/-- these ads are queued, the oldest first, and none went out yet; so many sections are open, and these tasks are ready -/
structure Gathered (p : Pipeline) (sections : Nat) (tasks : List Task) (ads : List AdRecord) : Prop where
  stack : p.queue.stack.entries.map (·.ad) = ads.reverse
  sections : p.queue.sections = sections
  dispatching : p.queue.dispatching = !tasks.isEmpty
  succeeded : p.queue.counters.succeeded = 0
  failed : p.queue.counters.failed = 0
  agenda : p.agenda = ⟨0, tasks, []⟩
  reported : p.reported = []

/-- the drain that is due when some ads have been gathered -/
def drainOf (ads : List AdRecord) : List Task := if ads.isEmpty then [] else [.drain .start]

variable {x : Setup} {p q : Pipeline} {n : Nat} {tasks : List Task} {ads : List AdRecord}

theorem reported_note (p : Pipeline) {n : Note} (h : ∀ e, n ≠ .dispatch (.started e)) :
    (p.note n).reported = p.reported := by
  simp only [reported, note, List.reverse_cons, List.filterMap_append]
  cases n with
  | dispatch d =>
    cases d with
    | started e => exact absurd rfl (h e)
    | _ => simp
  | _ => simp

/-- notes about other things than dispatch say nothing of the reporter -/
theorem reported_append {notes : List (Nat × Note)} (h : ∀ n ∈ notes, ∀ d, n.2 ≠ .dispatch d)
    (journal : q.journal = notes ++ p.journal) : q.reported = p.reported := by
  have hnone : (notes.reverse.filterMap fun n => match n.2 with
      | .dispatch (.started e) => some e.ad
      | _ => none) = [] := by
    refine List.filterMap_eq_nil_iff.2 fun n hn => ?_
    split
    · next e heq => exact absurd heq (h n (List.mem_reverse.1 hn) _)
    · rfl
  rw [reported, journal, List.reverse_append, List.filterMap_append, hnone, List.append_nil, reported]

theorem gathered_start (c : Policy.Center) : Gathered (start c none) 0 [] [] := ⟨rfl, rfl, rfl, rfl, rfl, rfl, rfl⟩

namespace Gathered

theorem congr (h : Gathered p n tasks ads) (queue : q.queue = p.queue) (agenda : q.agenda = p.agenda)
    (reported : q.reported = p.reported) : Gathered q n tasks ads :=
  ⟨queue ▸ h.stack, queue ▸ h.sections, queue ▸ h.dispatching, queue ▸ h.succeeded, queue ▸ h.failed, agenda ▸ h.agenda,
    reported ▸ h.reported⟩

theorem note (h : Gathered p n tasks ads) {m : Note} (hm : ∀ e, m ≠ .dispatch (.started e)) :
    Gathered (p.note m) n tasks ads := h.congr rfl rfl (reported_note p hm)

theorem opened (h : Gathered p n tasks ads) : Gathered { p with queue := p.queue.openSection } (n + 1) tasks ads :=
  ⟨h.stack, congrArg (· + 1) h.sections, h.dispatching, h.succeeded, h.failed, h.agenda, h.reported⟩

/-- While a section is open, an ad that is found is queued and waits. -/
theorem resolve (h : Gathered p (n + 1) [] ads) (tab id : String) :
    Gathered (p.resolve tab id).1 (n + 1) [] (ads ++ (p.sessions.ad? tab id).toList) := by
  cases hfound : p.sessions.ad? tab id with
  | none =>
    rw [resolve_of_none hfound, Option.toList_none, List.append_nil]
    exact h.note (by simp)
  | some ad =>
    have hsections : (p.queue.withAd ad).sections = n + 1 := h.sections
    have hclaim : p.queue.enqueue ad = (p.queue.withAd ad, false) := by
      change (p.queue.withAd ad).claim = _
      simp [Dispatch.Queue.claim, Dispatch.Queue.wantsDrain, hsections]
    have hstack : (p.queue.withAd ad).stack.entries.map (·.ad) = (ads ++ [ad]).reverse := by
      simp [Dispatch.Queue.withAd, Dispatch.Stack.push, Dispatch.Queue.entryOf, h.stack]
    rw [resolve_of_some hfound, hclaim, adopt, if_neg (by simp)]
    refine Gathered.note (Gathered.note ?_ (by simp)) (by simp)
    exact ⟨hstack, h.sections, h.dispatching, h.succeeded, h.failed, h.agenda, h.reported⟩

/-- When the last section closes, a drain is due for what was gathered. -/
theorem close (h : Gathered p 1 [] ads) : Gathered (p.adopt p.queue.closeSection) 0 (drainOf ads) ads := by
  have hempty : p.queue.stack.isEmpty = ads.isEmpty := by
    have hl := congrArg List.length h.stack
    simp only [List.length_map, List.length_reverse] at hl
    rw [Dispatch.Stack.isEmpty, Bool.eq_iff_iff, List.isEmpty_iff_length_eq_zero, List.isEmpty_iff_length_eq_zero, hl]
  have hwants : (Dispatch.Queue.wantsDrain { p.queue with sections := p.queue.sections - 1 }) = !ads.isEmpty := by
    simp [Dispatch.Queue.wantsDrain, h.dispatching, h.sections, hempty]
  rw [Dispatch.Queue.closeSection, Dispatch.Queue.claim, hwants, drainOf]
  cases ads.isEmpty with
  | true => exact ⟨h.stack, by simp [adopt, h.sections], h.dispatching, h.succeeded, h.failed, h.agenda, h.reported⟩
  | false =>
    refine ⟨h.stack, by simp [adopt, spawn, h.sections], rfl, h.succeeded, h.failed, ?_, h.reported⟩
    simp [adopt, spawn, Agenda.spawn, h.agenda]

theorem closeSection (h : Gathered p 1 [] ads) {i : Nat} (hi : p.sections[i]? = some true) :
    Gathered (p.closeSection i).1 0 (drainOf ads) ads ∧ (p.closeSection i).1.requests = p.requests := by
  have hopen : Gathered { p with sections := p.sections.set i false } 1 [] ads := h.congr rfl rfl rfl
  rw [Pipeline.closeSection, if_pos hi]
  exact ⟨hopen.close, adopt_requests _ _⟩

/-! ## Requests and completions gather ads -/

theorem unreported (h : Gathered p n tasks ads) (tab id : String) (hr : x.gate.reports p.center = false) :
    Gathered (Pipeline.request x p tab id).1 n tasks ads := by
  rw [request_unreported x p tab id hr]
  exact (h.note (m := .unreported tab id) (by simp)).congr rfl rfl rfl

theorem waits (h : Gathered p n tasks ads) {tab : String} (id : String) (hr : x.gate.reports p.center = true)
    (ha : (p.sessions.slot tab).ads = none) : Gathered (Pipeline.request x p tab id).1 n tasks ads := by
  rw [request_waits x p id hr ha]
  have hs : Gathered { p with sessions := (p.sessions.park tab ⟨p.requests.length, id⟩).1 } n tasks ads := h.congr rfl rfl rfl
  exact (hs.note (m := .parked tab ⟨p.requests.length, id⟩) (by simp)).congr rfl rfl rfl

theorem ready (h : Gathered p (n + 1) [] ads) {tab : String} (id : String) (hr : x.gate.reports p.center = true)
    (ha : (p.sessions.slot tab).ads.isSome) :
    Gathered (Pipeline.request x p tab id).1 (n + 1) [] (ads ++ (p.sessions.ad? tab id).toList) := by
  rw [request_ready x p id hr ha]
  exact (h.resolve tab id).congr rfl rfl rfl

/-- Those who waited have their ads queued, in their order. -/
theorem answers (h : Gathered p (n + 1) [] ads) {tab : String} {stored : AdMap} (ws : List Waiting)
    (hs : (p.sessions.slot tab).ads = some stored) :
    Gathered (ws.foldl (answer true tab) p) (n + 1) [] (ads ++ grantedAds stored (ws.map (·.ad))) := by
  induction ws generalizing p ads stored with
  | nil => simpa [grantedAds] using h
  | cons w ws ih =>
    have hfound : p.sessions.ad? tab w.ad = stored.find? w.ad := by simp [Sessions.ad?, hs]
    have hrest : ((answer true tab p w).sessions.slot tab).ads = some (stored.erase w.ad) := by
      simp [answer, Pipeline.note, settleRequest, resolve_sessions, Sessions.take_slot, hs]
    have hstep : Gathered (answer true tab p w) (n + 1) [] (ads ++ (stored.find? w.ad).toList) :=
      (((hfound ▸ h.resolve tab w.ad).note (m := .answered tab w (p.resolve tab w.ad).2) (by simp)).congr rfl rfl rfl)
    have hws := ih hstep hrest
    rwa [List.append_assoc] at hws

/-- An accepted completion leaves a drain due for the ads of those who waited. -/
theorem finish (h : Gathered p 0 [] []) {t : Ticket} (stored : AdMap) (hc : p.sessions.isCurrent t = true)
    (hr : x.gate.reports p.center = true ∨ p.line t.tab = []) :
    Gathered (finish x p t stored) 0 (drainOf (grantedAds stored ((p.line t.tab).map (·.ad))))
      (grantedAds stored ((p.line t.tab).map (·.ad))) := by
  have hcompleted : Gathered { p with sessions := (p.sessions.complete t stored).1 } 0 [] [] := h.congr rfl rfl rfl
  have hstocked : Gathered (stocked p t stored) 0 [] [] := hcompleted.note (by simp)
  rw [finish_eq stored hc]
  refine Gathered.congr (p := (stocked p t stored).answerAll (x.gate.reports p.center) t.tab (p.line t.tab)) ?_ rfl rfl rfl
  unfold answerAll
  split_ifs with he
  · rw [List.isEmpty_iff.1 he]
    exact hstocked
  · have hreports : x.gate.reports p.center = true := hr.resolve_right (mt List.isEmpty_iff.2 he)
    have hslot : ((stocked p t stored).sessions.slot t.tab).ads = some stored := by
      rw [stocked_slot stored hc, if_pos rfl]
    rw [hreports]
    exact (hstocked.opened.answers (p.line t.tab) hslot).close

/-! ## What is gathered goes out -/

theorem reported_fold (p : Pipeline) (ns : List Dispatch.Note) :
    (ns.foldl (fun p n => p.note (.dispatch n)) p).reported = p.reported ++ (Dispatch.handedIn ns).map (·.ad) ∧
      (ns.foldl (fun p n => p.note (.dispatch n)) p).queue = p.queue := by
  induction ns generalizing p with
  | nil => simp [Dispatch.handedIn]
  | cons n ns ih =>
    obtain ⟨hreported, hqueue⟩ := ih (p.note (.dispatch n))
    refine ⟨hreported.trans ?_, hqueue⟩
    cases n <;> simp [Pipeline.reported, Pipeline.note, Dispatch.handedIn]

/-- All that is gathered goes out to a prompt reporter, the newest first. -/
theorem settle (h : Gathered p 0 (drainOf ads) ads) (hx : x.reporter = .prompt) :
    ((loop x).settle p).reported = ads.reverse ∧ ((loop x).settle p).queue.counters.succeeded = ads.length ∧
      ((loop x).settle p).queue.counters.failed = 0 ∧ ((loop x).settle p).requests = p.requests := by
  cases hads : ads.isEmpty with
  | true =>
    have hready : p.agenda.ready = [] := by simp [h.agenda, drainOf, hads]
    have hnil : ads = [] := List.isEmpty_iff.1 hads
    have hsettle : (loop x).settle p = p := by
      simp [Loop.settle, loop, hready, Loop.runTurns]
    rw [hsettle]
    exact ⟨by simp [h.reported, hnil], by simp [h.succeeded, hnil], h.failed, rfl⟩
  | false =>
    have hready : p.agenda = ⟨0, [.drain .start], []⟩ := by simp [h.agenda, drainOf, hads]
    set p' : Pipeline := { p with agenda := ⟨0, [], []⟩ }
    set t := p.queue.turn x.reporter x.reportLimit .start
    have hdrains : Dispatch.Drains x.reporter x.reportLimit p.queue t := Dispatch.drains _ _ p.queue
    have hemptied : Dispatch.Emptied p.queue t := (hx ▸ hdrains).prompt h.sections
    have hturn : turn x p' (.drain .start) = p'.drain x .start := by
      simp only [turn]
      split
      · rfl
      · next hnext => exact absurd (hemptied.ends.symm.trans hnext) (by simp)
    have hsettle : (loop x).settle p = p'.drain x .start := by
      have hnext : (loop x).next? p = some (turn x p' (.drain .start)) := by
        simp [Loop.next?, loop, hready, p']
      have hturns : (loop x).turns p = 1 := by simp [loop, hready, turnsOf]
      rw [Loop.settle, hturns, Loop.runTurns, hnext, hturn]
      rfl
    obtain ⟨hreported, hqueue⟩ := reported_fold { p' with queue := t.queue } t.notes
    have hstack : p.queue.stack.entries.length = ads.length := by
      simpa using congrArg List.length h.stack
    rw [hsettle]
    refine ⟨hreported.trans ?_, ?_, ?_, (notes_fold _ _).1⟩
    · rw [hemptied.started, h.stack]
      exact congrArg (· ++ _) h.reported
    · exact (congrArg (·.counters.succeeded) hqueue).trans (by rw [hemptied.succeeded, h.succeeded, hstack, Nat.zero_add])
    · exact (congrArg (·.counters.failed) hqueue).trans (by rw [hemptied.failed, h.failed])

end Gathered

end AdConfirm.Pipeline
