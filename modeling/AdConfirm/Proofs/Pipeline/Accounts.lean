import AdConfirm.Proofs.Pipeline.Ledger

/-!
Decisions and entries balance.

A request that is decided true has its ad queued, and so has a direct move that finds one; nothing else is ever queued.

- `decides`: the requests that an event decides, read off the pipeline before and after it.
- `Decided`, `decided_play`: a play decides every request at most once, and who made it learns the decision unless it gave up.
- `balance_play`: there is one entry for every decision that is true.
- `ads_accounted`: every entry is a record that was stored, and every record that was stored is in one place.
-/

namespace AdConfirm.Pipeline

open AdConfirm.Tab (Ticket Waiting Sessions)

/-- the answer that an event gives at once to the request that it makes -/
def promptAnswers (x : Setup) (p : Pipeline) : Event → List (Nat × Bool)
  | .request tab id =>
    match (Pipeline.request x p tab id).1.requests[(Pipeline.request x p tab id).2]? with
    | some (.decided b) => [((Pipeline.request x p tab id).2, b)]
    | _ => []
  | _ => []

/-- the requests that an event decides, and how: at once, or after they waited. Who made one may have given up. -/
def decides (x : Setup) (p : Pipeline) (e : Event) : List (Nat × Bool) :=
  promptAnswers x p e ++ (perform x p e).lateAnswers.drop p.lateAnswers.length

/-- whether a direct move finds its ad -/
def finds (p : Pipeline) : Event → List Bool
  | .resolve tab id => [(p.resolve tab id).2]
  | _ => []

def decisions (x : Setup) (p : Pipeline) (es : List Event) : List (Nat × Bool) :=
  yields (fun before e => decides x (play x p before) e) [] es

/-- what all direct moves of a play find -/
def findings (x : Setup) (p : Pipeline) (es : List Event) : List Bool :=
  yields (fun before e => finds (play x p before) e) [] es

/-- the requests decided so far: each once, as its maker learns unless it gave up, and nobody in a line is among them -/
structure Decided (p : Pipeline) (ds : List (Nat × Bool)) : Prop where
  once : (ds.map Prod.fst).Nodup
  told : ∀ key b, (key, b) ∈ ds → p.requests[key]? = some (.decided b) ∨ p.requests[key]? = some .forgotten
  all : ∀ key b, p.requests[key]? = some (.decided b) → (key, b) ∈ ds
  undecided : ∀ tab, ∀ w ∈ p.line tab, w.key ∉ ds.map Prod.fst

variable {x : Setup} {p q : Pipeline}

/-! ## What an event decides -/

theorem decides_of_late {e : Event} {as : List (Nat × Bool)} (h : (perform x p e).lateAnswers = p.lateAnswers ++ as) :
    decides x p e = promptAnswers x p e ++ as := by
  rw [decides, h, List.drop_left]

theorem promptAnswers_eq {tab id : String} {a : Answer}
    (h : (perform x p (.request tab id)).requests = p.requests ++ [a]) :
    promptAnswers x p (.request tab id) = match a with
      | .decided b => [(p.requests.length, b)]
      | _ => [] := by
  have hkey : (Pipeline.request x p tab id).2 = p.requests.length := rfl
  have hget : (Pipeline.request x p tab id).1.requests[p.requests.length]? = some a := by
    have hr : (Pipeline.request x p tab id).1.requests = p.requests ++ [a] := h
    simp [hr]
  simp only [promptAnswers, hkey, hget]
  cases a <;> rfl

/-- Only an accepted completion answers those who waited. -/
theorem late_of_not_accepted {e : Event} (h : ∀ t ads, e = .finish t ads → p.sessions.isCurrent t = false) :
    (perform x p e).lateAnswers = p.lateAnswers := by
  cases e with
  | request tab id =>
    cases request_requested x p tab id with
    | refused _ _ quiet => exact quiet.lateAnswers
    | waits _ _ _ quiet => exact quiet.lateAnswers
    | answered _ _ moved => exact moved.lateAnswers
  | resolve tab id => exact (resolve_moved p tab id).lateAnswers
  | reset tab => exact (reset_quiet p tab).lateAnswers
  | finish t ads => exact (finish_quiet ads (h t ads rfl)).lateAnswers
  | _ => exact (perform_quiet rfl).lateAnswers

theorem decides_of_not_accepted {e : Event} (h : ∀ t ads, e = .finish t ads → p.sessions.isCurrent t = false) :
    decides x p e = promptAnswers x p e := by
  have hlate : (perform x p e).lateAnswers = p.lateAnswers ++ [] := by rw [late_of_not_accepted h, List.append_nil]
  rw [decides_of_late hlate, List.append_nil]

/-- An accepted completion decides those who stood in the line of its tab. -/
theorem decides_finish {t : Ticket} (ads : AdMap) (h : p.sessions.isCurrent t = true) :
    (finish x p t ads).lateAnswers = p.lateAnswers ++ decides x p (.finish t ads) ∧
      (decides x p (.finish t ads)).map (fun a => (a.1, Answer.decided a.2)) =
        answers (x.gate.reports p.center) ads (p.line t.tab) := by
  obtain ⟨q, hq, hads, hend⟩ := finish_stages (x := x) ads h
  obtain ⟨as, hlate, has⟩ := answer_fold_late q t.tab (x.gate.reports p.center) (p.line t.tab) hads
  have hstart : q.lateAnswers = p.lateAnswers := hq.lateAnswers.trans (stocked_quiet p t ads).lateAnswers
  have hfinish : (perform x p (.finish t ads)).lateAnswers = p.lateAnswers ++ as := by
    rw [← hstart, ← hlate]
    exact hend.lateAnswers
  rw [decides_of_late hfinish]
  exact ⟨hfinish, has⟩

/-! ## Every request is decided once -/

theorem lookup_of_mem {as : List (Nat × Answer)} (hn : (as.map Prod.fst).Nodup) {key : Nat} {a : Answer}
    (h : (key, a) ∈ as) : as.lookup key = some a := by
  obtain ⟨l, m, rfl⟩ := List.append_of_mem h
  refine List.lookup_eq_some_iff.2 ⟨l, m, rfl, fun b hb => ?_⟩
  rw [List.map_append, List.nodup_append] at hn
  simpa using (hn.2.2 _ (List.mem_map_of_mem hb) key (by simp)).symm

/-- what a request that is decided, or was given up, answers stays when others are settled -/
theorem settled_told {rs : List Answer} (as : List (Nat × Answer)) {key : Nat} {b : Bool}
    (h : rs[key]? = some (.decided b) ∨ rs[key]? = some .forgotten) :
    (settled rs as)[key]? = some (.decided b) ∨ (settled rs as)[key]? = some .forgotten := by
  rcases h with h | h
  · exact .inl (by rw [settled_of_ne (by simp [h]), h])
  · exact .inr (by rw [settled_of_ne (by simp [h]), h])

namespace Decided

variable {es : List Event} {ds : List (Nat × Bool)}

theorem lt_length (h : Decided p ds) {key : Nat} (hk : key ∈ ds.map Prod.fst) : key < p.requests.length := by
  obtain ⟨⟨k, b⟩, hmem, rfl⟩ := List.mem_map.1 hk
  rcases h.told k b hmem with ht | ht <;> exact (List.getElem?_eq_some_iff.1 ht).1

/-- Settling requests in some other way decides none. -/
theorem settle (h : Decided p ds) {as : List (Nat × Answer)} (requests : q.requests = settled p.requests as)
    (final : ∀ a ∈ as, a.2 ≠ .waiting) (others : ∀ a ∈ as, ∀ b, a.2 ≠ .decided b)
    (lines : ∀ j, (q.line j).Sublist (p.line j)) : Decided q ds where
  once := h.once
  told key b hmem := requests ▸ settled_told as (h.told key b hmem)
  all key b hr := by
    rw [requests] at hr
    by_cases hw : p.requests[key]? = some .waiting
    · rw [settled_of_waiting hw final] at hr
      cases hl : as.lookup key with
      | none => simp [hl] at hr
      | some a =>
        obtain ⟨l, m, rfl, -⟩ := List.lookup_eq_some_iff.1 hl
        exact absurd (by simpa [hl] using hr) (others (key, a) (by simp) b)
    · rw [settled_of_ne hw] at hr
      exact h.all key b hr
  undecided j w hw := h.undecided j w ((lines j).subset hw)

/-- Clearing the line of a tab by decisions decides those who stood in it. -/
theorem clear (h : Decided p ds) (hI : Inv es p) {tab : String} {as : List (Nat × Bool)}
    (requests : q.requests = settled p.requests (as.map fun a => (a.1, Answer.decided a.2)))
    (keys : as.map Prod.fst = (p.line tab).map (·.key))
    (lines : ∀ j, q.line j = if tab = j then [] else p.line j) : Decided q (ds ++ as) := by
  have hfinal : ∀ a ∈ as.map fun a => (a.1, Answer.decided a.2), a.2 ≠ .waiting := by
    rintro a ha
    obtain ⟨b, -, rfl⟩ := List.mem_map.1 ha
    simp
  have hmapped : (as.map fun a => (a.1, Answer.decided a.2)).map Prod.fst = as.map Prod.fst := by simp
  have hnodup : (as.map Prod.fst).Nodup := by
    rw [keys, List.Nodup, List.pairwise_map]
    exact (hI.arrival tab).imp Nat.ne_of_lt
  refine ⟨?_, fun key b hmem => ?_, fun key b hr => ?_, fun j w hw => ?_⟩
  · rw [List.map_append, List.nodup_append]
    refine ⟨h.once, hnodup, fun key hk key' hk' heq => ?_⟩
    subst heq
    obtain ⟨w, hw, rfl⟩ := List.mem_map.1 (keys ▸ hk')
    exact h.undecided tab w hw hk
  · rw [requests]
    rcases List.mem_append.1 hmem with hmem | hmem
    · exact settled_told _ (h.told key b hmem)
    · obtain ⟨w, hw, rfl⟩ := List.mem_map.1 (keys ▸ List.mem_map_of_mem (f := Prod.fst) hmem)
      rcases hI.unsettled tab w hw with ho | ho
      · have hl := lookup_of_mem (hmapped ▸ hnodup)
          (List.mem_map_of_mem (f := fun a => (a.1, Answer.decided a.2)) hmem)
        exact .inl (by rw [settled_of_waiting ho hfinal, hl]; rfl)
      · exact .inr (by rw [settled_of_ne (by simp [ho]), ho])
  · rw [requests] at hr
    by_cases hw : p.requests[key]? = some .waiting
    · rw [settled_of_waiting hw hfinal] at hr
      cases hl : (as.map fun a => (a.1, Answer.decided a.2)).lookup key with
      | none => simp [hl] at hr
      | some a =>
        obtain rfl : a = .decided b := by simpa [hl] using hr
        obtain ⟨l, m, heq, -⟩ := List.lookup_eq_some_iff.1 hl
        have hmem : (key, Answer.decided b) ∈ as.map fun a => (a.1, Answer.decided a.2) := by simp [heq]
        obtain ⟨⟨k, c⟩, hkc, heq⟩ := List.mem_map.1 hmem
        cases heq
        exact List.mem_append_right _ hkc
    · rw [settled_of_ne hw] at hr
      exact List.mem_append_left _ (h.all key b hr)
  · rw [lines] at hw
    split_ifs at hw with hj
    · exact absurd hw List.not_mem_nil
    · rw [List.map_append, List.mem_append, not_or]
      refine ⟨h.undecided j w hw, fun hk => ?_⟩
      obtain ⟨v, hv, hvw⟩ := List.mem_map.1 (keys ▸ hk)
      exact hj (hI.tab_eq hv hw hvw)

/-- a request that is answered at once is decided by that -/
theorem answer (h : Decided p ds) (hI : Inv es p) {b : Bool} (requests : q.requests = p.requests ++ [.decided b])
    (lines : ∀ j, q.line j = p.line j) : Decided q (ds ++ [(p.requests.length, b)]) := by
  refine ⟨?_, fun key c hmem => ?_, fun key c hr => ?_, fun j w hw => ?_⟩
  · rw [List.map_append, List.nodup_append]
    refine ⟨h.once, by simp, fun key hk key' hk' => ?_⟩
    obtain rfl : key' = p.requests.length := by simpa using hk'
    exact Nat.ne_of_lt (h.lt_length hk)
  · rw [requests]
    rcases List.mem_append.1 hmem with hmem | hmem
    · exact (h.told key c hmem).imp (getElem?_append_of_eq_some · _) (getElem?_append_of_eq_some · _)
    · obtain ⟨rfl, rfl⟩ : key = p.requests.length ∧ c = b := by simpa using hmem
      exact .inl (by simp)
  · rw [requests, List.getElem?_append] at hr
    split_ifs at hr with hlt
    · exact List.mem_append_left _ (h.all key c hr)
    · obtain ⟨hkey, rfl⟩ : key - p.requests.length = 0 ∧ c = b := by
        rw [List.getElem?_singleton] at hr
        split_ifs at hr with hzero
        exact ⟨hzero, by simpa [eq_comm] using hr⟩
      obtain rfl : key = p.requests.length := by omega
      simp
  · rw [lines] at hw
    rw [List.map_append, List.mem_append, not_or]
    exact ⟨h.undecided j w hw, by simpa using Nat.ne_of_lt (hI.key_lt hw)⟩

/-- a request that waits is not decided -/
theorem park (h : Decided p ds) {tab id : String} (requests : q.requests = p.requests ++ [.waiting])
    (lines : ∀ j, q.line j = if tab = j then p.line j ++ [⟨p.requests.length, id⟩] else p.line j) : Decided q ds := by
  refine ⟨h.once, fun key b hmem => ?_, fun key b hr => ?_, fun j w hw hk => ?_⟩
  · rw [requests]
    exact (h.told key b hmem).imp (getElem?_append_of_eq_some · _) (getElem?_append_of_eq_some · _)
  · rw [requests, List.getElem?_append] at hr
    split_ifs at hr with hlt
    · exact h.all key b hr
    · simpa using List.mem_of_getElem? hr
  · rw [lines] at hw
    split_ifs at hw with hj
    · rcases List.mem_append.1 hw with hw | hw
      · exact h.undecided j w hw hk
      · obtain rfl := List.mem_singleton.1 hw
        exact Nat.lt_irrefl _ (h.lt_length hk)
    · exact h.undecided j w hw hk

end Decided

/-- An event decides no request that was decided before. -/
theorem decided_perform {es : List Event} {ds : List (Nat × Bool)} (h : Decided p ds) (hI : Inv es p) (e : Event) :
    Decided (perform x p e) (ds ++ decides x p e) := by
  cases perform_change x p e with
  | answered b requests lines =>
    rw [decides_of_not_accepted (by simp), promptAnswers_eq requests]
    exact h.answer hI requests lines
  | parked requests lines =>
    rw [decides_of_not_accepted (by simp), promptAnswers_eq requests, List.append_nil]
    exact h.park requests lines
  | forgotten requests lines =>
    rw [decides_of_not_accepted (by simp), promptAnswers, List.append_nil]
    · exact h.settle requests (by simp) (by simp) fun j => by rw [lines]
    · simp
  | @completed t ads accepted requests lines =>
    obtain ⟨-, hdecides⟩ := decides_finish (x := x) ads accepted
    refine h.clear hI (hdecides ▸ requests) ?_ lines
    rw [← answers_keys (x.gate.reports p.center) ads, ← hdecides]
    simp
  | @reset tab requests lines =>
    rw [decides_of_not_accepted (by simp), promptAnswers, List.append_nil]
    · refine h.settle requests (abandons_final _ _) (by simp [abandons]) fun j => ?_
      rw [lines]
      split_ifs
      · exact List.nil_sublist _
      · exact .refl _
    · simp
  | @aside e isAside requests lines =>
    have hnot : ∀ t ads, e = .finish t ads → p.sessions.isCurrent t = false := by
      rintro t ads rfl
      simpa [Event.isAside] using isAside
    have hprompt : promptAnswers x p e = [] := by
      cases e <;> first | rfl | simp [Event.isAside] at isAside
    rw [decides_of_not_accepted hnot, hprompt, List.append_nil]
    have hnone : (perform x p e).requests = settled p.requests [] := requests
    exact h.settle hnone (by simp) (by simp) fun j => by rw [lines]

theorem decisions_snoc (p : Pipeline) (es : List Event) (e : Event) :
    decisions x p (es ++ [e]) = decisions x p es ++ decides x (play x p es) e := by
  rw [decisions, yields_snoc, List.nil_append, decisions]

theorem decided_play (c : Policy.Center) (capacity : Option Nat) (es : List Event) :
    Decided (play x (start c capacity) es) (decisions x (start c capacity) es) := by
  induction es using List.reverseRecOn with
  | nil =>
    have hI := inv_start c capacity
    have hr : (start c capacity).requests = [] := List.eq_nil_of_length_eq_zero hI.count
    exact ⟨List.nodup_nil, by simp [decisions, yields], by simp [play, hr], by simp [decisions, yields]⟩
  | append_singleton es e ih =>
    rw [decisions_snoc, play_snoc]
    exact decided_perform ih (play_inv (inv_start c capacity) es) e

/-! ## One entry for every decision that is true -/

theorem answer_balance (p : Pipeline) (isReporting : Bool) (tab : String) (w : Waiting) :
    (answer isReporting tab p w).queuedEntries.length + p.lateAnswers.countP (·.2) =
      p.queuedEntries.length + (answer isReporting tab p w).lateAnswers.countP (·.2) := by
  cases isReporting with
  | false =>
    obtain ⟨hk, hlate⟩ := answer_kept p tab w
    rw [hk.queued, hlate]
    simp
  | true =>
    obtain ⟨q, hm, hk, hlate⟩ := answer_moved p tab w
    rw [hk.queued, hm.queuedEntries, hlate]
    cases p.sessions.ad? tab w.ad with
    | none => simp
    | some ad => simp; omega

theorem answer_fold_balance (p : Pipeline) (isReporting : Bool) (tab : String) (ws : List Waiting) :
    (ws.foldl (answer isReporting tab) p).queuedEntries.length + p.lateAnswers.countP (·.2) =
      p.queuedEntries.length + (ws.foldl (answer isReporting tab) p).lateAnswers.countP (·.2) := by
  induction ws generalizing p with
  | nil => rfl
  | cons w ws ih =>
    have hw := answer_balance p isReporting tab w
    have hws := ih (answer isReporting tab p w)
    rw [List.foldl_cons]
    omega

/-- An event queues an entry for every decision that is true, and for a direct move that finds its ad. -/
theorem perform_balance (p : Pipeline) (e : Event) :
    (perform x p e).queuedEntries.length =
      p.queuedEntries.length + (decides x p e).countP (·.2) + (finds p e).count true := by
  cases e with
  | request tab id =>
    rw [decides_of_not_accepted (by simp), perform]
    cases request_requested x p tab id with
    | refused _ requests quiet => simp [quiet.kept.queued, promptAnswers_eq requests, finds]
    | waits _ _ requests quiet => simp [quiet.kept.queued, promptAnswers_eq requests, finds]
    | answered _ requests moved =>
      simp only [moved.queuedEntries, promptAnswers_eq requests]
      cases p.sessions.ad? tab id <;> simp [finds]
  | resolve tab id =>
    have hqueued : (perform x p (.resolve tab id)).queuedEntries = _ := (resolve_moved p tab id).queuedEntries
    rw [decides_of_not_accepted (by simp), hqueued]
    simp only [finds, resolve_isSome]
    cases p.sessions.ad? tab id <;> simp [promptAnswers]
  | reset tab =>
    have hqueued : (perform x p (.reset tab)).queuedEntries = p.queuedEntries := (reset_quiet p tab).kept.queued
    rw [decides_of_not_accepted (by simp), hqueued]
    rfl
  | finish t ads =>
    cases hc : p.sessions.isCurrent t with
    | false =>
      have hnot : ∀ u as, Event.finish t ads = .finish u as → p.sessions.isCurrent u = false := by
        rintro _ _ heq
        cases heq
        exact hc
      have hqueued : (perform x p (.finish t ads)).queuedEntries = _ := (finish_quiet ads hc).kept.queued
      rw [decides_of_not_accepted hnot, hqueued]
      rfl
    | true =>
      obtain ⟨q, hq, -, hend⟩ := finish_stages (x := x) ads hc
      have hfold := answer_fold_balance q (x.gate.reports p.center) t.tab (p.line t.tab)
      have hstart := stocked_quiet p t ads
      have hqueued : q.queuedEntries = p.queuedEntries := hq.kept.queued.trans hstart.kept.queued
      have hlate : q.lateAnswers = p.lateAnswers := hq.lateAnswers.trans hstart.lateAnswers
      rw [← hend.kept.queued, ← hend.lateAnswers, hqueued, hlate, (decides_finish ads hc).1, List.countP_append] at hfold
      have hnone : (finds p (.finish t ads)).count true = 0 := rfl
      rw [perform]
      omega
  | _ =>
    rw [decides_of_not_accepted (by simp), (perform_quiet rfl).kept.queued]
    rfl

theorem findings_snoc (p : Pipeline) (es : List Event) (e : Event) :
    findings x p (es ++ [e]) = findings x p es ++ finds (play x p es) e := by
  rw [findings, yields_snoc, List.nil_append, findings]

/-- There is one entry for every decision that is true, and for every direct move that found its ad. -/
theorem balance_play (c : Policy.Center) (capacity : Option Nat) (es : List Event) :
    (play x (start c capacity) es).queuedEntries.length =
      (decisions x (start c capacity) es).countP (·.2) + (findings x (start c capacity) es).count true := by
  induction es using List.reverseRecOn with
  | nil =>
    have hnone : (start c capacity).queuedEntries = [] := by
      unfold start
      split_ifs <;> rfl
    simp [play, hnone, decisions, findings, yields]
  | append_singleton es e ih =>
    rw [play_snoc, perform_balance, ih, decisions_snoc, findings_snoc, List.countP_append, List.count_append]
    omega

/-- While views are not reported, only a direct move queues an entry. -/
theorem queued_of_not_reports {e : Event} (h : x.gate.reports p.center = false) (hmove : ∀ tab id, e ≠ .resolve tab id) :
    (perform x p e).queuedEntries = p.queuedEntries := by
  cases e with
  | request tab id =>
    cases request_requested x p tab id with
    | refused _ _ quiet => exact quiet.kept.queued
    | waits reports => exact absurd reports (by simp [h])
    | answered reports => exact absurd reports (by simp [h])
  | resolve tab id => exact absurd rfl (hmove tab id)
  | reset tab => exact (reset_quiet p tab).kept.queued
  | finish t ads =>
    cases hc : p.sessions.isCurrent t with
    | false => exact (finish_quiet ads hc).kept.queued
    | true =>
      obtain ⟨q, hq, -, hend⟩ := finish_stages (x := x) ads hc
      rw [h] at hend
      calc (finish x p t ads).queuedEntries
        _ = ((p.line t.tab).foldl (answer false t.tab) q).queuedEntries := hend.kept.queued
        _ = q.queuedEntries := (answer_fold_kept q t.tab _).queued
        _ = (stocked p t ads).queuedEntries := hq.kept.queued
        _ = p.queuedEntries := (stocked_quiet p t ads).kept.queued
  | _ => exact (perform_quiet rfl).kept.queued

/-! ## The accounts -/

/-- **Every entry is a record that was stored, and every record that was stored is in one place.** Every run is a play of
events, in which the calls from outside are those of the run. In every play there are as many entries, ever queued, as
requests were decided true and direct moves found their ad; every request is decided at most once, and is told so unless its
maker gave up, and decided counts also then. The entries are, in their order, records that accepted ingestions stored under
the tab and the id that they were taken from, and what waits in the queue is among them. Every record ever stored is in
exactly one place: its tab holds it, that is, it can be taken there; or it was queued, once; or it was discarded, because its
tab was reset or its ads were replaced by those of a later accepted ingestion while it held it. And while the gate says that
views are not reported, nothing but a direct move queues an entry: no request does, made then or answered then. -/
theorem ads_accounted (x : Setup) (c : Policy.Center) (capacity : Option Nat) :
    (∀ p ops, ∃ es, run x p ops = play x p es ∧ (ops.filterMap Op.event?).Sublist es ∧
      es.filter Event.isCall = (ops.filterMap Op.event?).filter Event.isCall) ∧
    ∀ es, let p₀ := start c capacity
      let p := play x p₀ es
      let l := postAll x p₀ .empty es
      (p.queuedEntries.length = (decisions x p₀ es).countP (·.2) + (findings x p₀ es).count true ∧
        p.queue.counters.enqueued = p.queuedEntries.length ∧
        ((decisions x p₀ es).map Prod.fst).Nodup ∧
        (∀ key b, (key, b) ∈ decisions x p₀ es →
          p.requests[key]? = some (.decided b) ∨ p.requests[key]? = some .forgotten) ∧
        ∀ key b, p.requests[key]? = some (.decided b) → (key, b) ∈ decisions x p₀ es) ∧
      (p.queuedEntries.map (·.ad) = l.queued.map (·.ad) ∧
        p.takenAds = List.zipWith (fun c e => (c.tab, c.id, e.seq)) l.queued p.queuedEntries ∧
        p.queue.stack.entries.Sublist p.queuedEntries.reverse ∧
        ∀ c, c ∈ l.stored ↔ Ever (Stocks x p₀ c) es) ∧
      ((l.held ++ l.queued ++ l.discarded).Perm l.stored ∧ l.stored.Nodup ∧
        (∀ tab id ad, (p.sessions.take tab id).2 = some ad ↔ ∃ n, ⟨n, tab, id, ad⟩ ∈ l.held) ∧
        ∀ c, c ∈ l.discarded ↔ Ever (Discards x p₀ c) es) ∧
      ∀ e, x.gate.reports p.center = false → (∀ tab id, e ≠ .resolve tab id) →
        (perform x p e).queuedEntries = p.queuedEntries := by
  refine ⟨run_calls x, fun es => ?_⟩
  intro p₀ p l
  have hbooks : Books l p := books_play c capacity es
  have hdecided : Decided p (decisions x p₀ es) := decided_play c capacity es
  refine ⟨⟨balance_play c capacity es, hbooks.count, hdecided.once, hdecided.told, hdecided.all⟩,
    ⟨hbooks.queued, hbooks.taken, hbooks.waiting, mem_stored x p₀ es⟩,
    ⟨hbooks.places, hbooks.distinct, fun tab id ad => ?_, mem_discarded x p₀ es⟩,
    fun e hr hmove => queued_of_not_reports hr hmove⟩
  rw [Sessions.take_result]
  exact hbooks.held tab id ad

end AdConfirm.Pipeline
