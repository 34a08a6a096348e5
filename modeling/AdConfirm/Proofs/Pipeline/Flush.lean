import AdConfirm.Proofs.Pipeline.Ingested
import AdConfirm.Proofs.Pipeline.DrainTask

/-!
How those who waited are answered when the ads of their tab come.

They are answered in order of arrival in one event, so no call starts in between. An ad goes to the first of them who asked for
it. The ads that are given away are queued on top of what waits, and if nothing is queued after that, they go out first, in the
reverse order.

- `verdicts`: who of those in a line is answered true; `granted_verdicts`, `answers_verdicts`.
- `finish_flushes`: what an accepted completion does at once.
- `waiting_flushed`: in every run, it does so, and what it queued goes out before all that waited.
-/

namespace AdConfirm.Pipeline

open AdConfirm.Dispatch (Entry handedIn queuedIn)
open AdConfirm.Tab (Ticket Waiting)

/-- who of those in a line is answered true: if views are reported, the first who asks for each ad that is there -/
def verdicts (isReporting : Bool) (ads : AdMap) (ws : List Waiting) : List Bool :=
  ws.mapIdx fun i w => isReporting && ads.contains w.ad && !(ws.take i).any (·.ad = w.ad)

/-- what an accepted completion does for those who wait: they are answered, and their ads are queued on top, and meanwhile no
call starts or ends -/
structure Flushes (x : Setup) (p q : Pipeline) (t : Ticket) (ads : AdMap) (gained : List Entry) : Prop where
  answered : q.lateAnswers = p.lateAnswers ++
    ((p.line t.tab).map (·.key)).zip (verdicts (x.gate.reports p.center) ads (p.line t.tab))
  requests : q.requests = settled p.requests
    (((p.line t.tab).map (·.key)).zip ((verdicts (x.gate.reports p.center) ads (p.line t.tab)).map .decided))
  line : q.line t.tab = []
  silent : ∃ ns, q.log = p.log ++ ns ∧ dispatchIn ns = gained.map .queued
  theirs : gained.map (some ·.ad) =
    (((p.line t.tab).zip (verdicts (x.gate.reports p.center) ads (p.line t.tab))).filter (·.2)).map fun v => ads.find? v.1.ad
  stack : q.queue.stack.entries = gained.reverse ++ p.queue.stack.entries
  unreported : x.gate.reports p.center = false →
    (∀ b ∈ verdicts (x.gate.reports p.center) ads (p.line t.tab), b = false) ∧ gained = [] ∧
      (q.sessions.slot t.tab).ads = some ads

variable {x : Setup} {p : Pipeline} {t : Ticket}

theorem granted_verdicts (isReporting : Bool) (ads : AdMap) (ws : List Waiting) :
    granted (if isReporting then ads else Table.empty) (ws.map (·.ad)) = verdicts isReporting ads ws := by
  refine List.ext_getElem? fun i => ?_
  rw [granted_getElem?, verdicts, List.getElem?_mapIdx, List.getElem?_map, Option.map_map]
  refine Option.map_congr fun w _ => ?_
  have hany : (ws.take i).any (·.ad = w.ad) = decide (w.ad ∈ (ws.map (·.ad)).take i) := by
    rw [Bool.eq_iff_iff, List.any_eq_true, decide_eq_true_eq, ← List.map_take, List.mem_map]
    simp
  cases isReporting with
  | true => simp [hany]
  | false => simp [Table.contains, Table.find?_empty]

theorem answers_verdicts (isReporting : Bool) (ads : AdMap) (ws : List Waiting) :
    answers isReporting ads ws = (ws.map (·.key)).zip ((verdicts isReporting ads ws).map .decided) := by
  rw [← granted_verdicts]
  induction ws generalizing ads with
  | nil => rfl
  | cons w ws ih =>
    cases isReporting with
    | true => simpa [answers, granted] using ih (ads.erase w.ad)
    | false =>
      have hnone : Table.empty.erase w.ad = (Table.empty : AdMap) := Table.erase_of_find?_eq_none (Table.find?_empty w.ad)
      have hrest := ih ads
      simp only [Bool.false_eq_true, if_false] at hrest
      simp [answers, granted, hrest, hnone, Table.contains, Table.find?_empty]

theorem verdicts_unreported (ads : AdMap) (ws : List Waiting) : ∀ b ∈ verdicts false ads ws, b = false := by
  simp [verdicts]

/-- Who is answered true gets the ad that was asked for. -/
theorem grantedAds_verdicts (isReporting : Bool) (ads : AdMap) (ws : List Waiting) :
    (grantedAds (if isReporting then ads else Table.empty) (ws.map (·.ad))).map some =
      ((ws.zip (verdicts isReporting ads ws)).filter (·.2)).map fun v => ads.find? v.1.ad := by
  cases isReporting with
  | true =>
    rw [if_pos rfl, grantedAds_eq, ← granted_verdicts, if_pos rfl, List.zip_map_left, List.filter_map, List.map_map]
    rfl
  | false =>
    have hnone : (ws.zip (verdicts false ads ws)).filter (·.2) = [] :=
      List.filter_eq_nil_iff.2 fun v hv => by simp [verdicts_unreported ads ws v.2 (List.of_mem_zip hv).2]
    rw [if_neg (by simp), grantedAds_empty, hnone]
    rfl

theorem zip_fst_injective {as : List (Nat × Bool)} {ks : List Nat} {bs : List Bool}
    (h : as.map (fun a => (a.1, Answer.decided a.2)) = ks.zip (bs.map .decided)) : as = ks.zip bs := by
  have hzip : ks.zip (bs.map Answer.decided) = (ks.zip bs).map fun a => (a.1, Answer.decided a.2) := by
    rw [List.zip_map_right]
    rfl
  rw [hzip] at h
  refine List.map_injective_iff.2 (fun a b hab => ?_) h
  obtain ⟨hkey, htriggered⟩ := Prod.mk.inj hab
  exact Prod.ext hkey (Answer.decided.inj htriggered)

/-- **An accepted completion answers those who waited**, and leaves somebody to see to their ads. -/
theorem finish_flushes (x : Setup) {p : Pipeline} {t : Ticket} (ads : AdMap) (h : p.sessions.isCurrent t = true) :
    ∃ gained, Flushes x p (finish x p t ads) t ads gained ∧
      (p.line t.tab ≠ [] → (finish x p t ads).queue.Tended) := by
  obtain ⟨ns, gained, hqueues, hgained, htended⟩ := Queues.finish x ads h
  obtain ⟨hrequests, hline⟩ := finish_accepted x p ads h
  refine ⟨gained, ⟨?_, ?_, ?_, ⟨ns, hqueues.log, hqueues.told⟩, ?_, hqueues.stack, fun hr => ⟨?_, ?_, ?_⟩⟩, htended⟩
  · obtain ⟨q, hq, hslot, hend⟩ := finish_stages (x := x) ads h
    obtain ⟨as, hlate, has⟩ := answer_fold_late q t.tab (x.gate.reports p.center) (p.line t.tab) hslot
    rw [answers_verdicts] at has
    rw [hend.lateAnswers, hlate, hq.lateAnswers, zip_fst_injective has, (stocked_quiet p t ads).lateAnswers]
    rfl
  · rw [hrequests, answers_verdicts]
  · rw [hline, if_pos rfl]
  · rw [← grantedAds_verdicts, ← hgained, List.map_map]
    rfl
  · rw [hr]
    exact verdicts_unreported ads (p.line t.tab)
  · rw [hr, if_neg (by simp), grantedAds_empty] at hgained
    exact List.map_eq_nil_iff.1 hgained
  · rw [finish_ads x p ads h, hr]
    rfl

/-- **Who waited is answered in order of arrival, and their ads go out first, the newest first.** Every run is a play of events,
in which its operations from outside occur in their order, and no other calls. Whenever in it a completion is accepted, whatever
the queue is doing then, it answers those who wait in the order of their arrival: true just in case views are reported at that
moment, the id is one of those stored, and nobody earlier in the line asked for it. If views are not reported, all ads stay with
the tab. No call starts meanwhile; the ads of those answered true are then on top of all that waited, and as long as nothing
else is queued, what goes out next and what still waits are these ads in the reverse order, and then what waited before. If no
call has broken down either, no section is open and no task is ready, then all of them have gone out, or a call is in flight
that is over when the limit of the reporter has passed at the latest. -/
theorem waiting_flushed (x : Setup) (c : Policy.Center) (capacity : Option Nat) (ops : List Op) :
    ∃ (es : List Event) (dropped : List Ticket), let p₀ := start c capacity
      (run x p₀ ops = play x p₀ es ∧ (ops.filterMap Op.event?).Sublist es ∧
        es.filter Event.isCall = (ops.filterMap Op.event?).filter Event.isCall ∧
        (run x p₀ ops).chronicle = yields (fun before e => e.entries x (play x p₀ before)) [] es ∧
        dropped.map (·.tab) = ops.filterMap Op.neverRun?) ∧
      ∀ before t ads after, es = before ++ .finish t ads :: after → (play x p₀ before).sessions.isCurrent t = true →
        let p := play x p₀ before
        let q := play x p₀ (before ++ [.finish t ads])
        (p.line t.tab).Pairwise (fun v w => v.key < w.key) ∧
          ∃ gained, Flushes x p q t ads gained ∧
            ∀ mid rest, after = mid ++ rest → let r := play x p₀ (before ++ .finish t ads :: mid)
              ∃ ns, r.log = q.log ++ ns ∧ (queuedIn (dispatchIn ns) = [] →
                handedIn (dispatchIn ns) ++ r.queue.stack.entries = gained.reverse ++ p.queue.stack.entries ∧
                  (p.line t.tab ≠ [] → rest = [] → (∀ e, .ended e .brokeDown ∉ dispatchIn ns) → r.queue.sections = 0 →
                    r.agenda.isQuiet = true → r.queue.stack.entries = [] ∨ ∃ e o due, Calling x r e o due)) := by
  obtain ⟨es, dropped, h⟩ := run_recounts x c capacity ops
  refine ⟨es, dropped, ⟨h.run, h.calls_in_order, h.no_other_calls, h.chronicle, h.never_run⟩, ?_⟩
  rintro before t ads after rfl hcurrent
  obtain ⟨gained, hflushes, htended⟩ := finish_flushes x ads hcurrent
  rw [play_snoc]
  refine ⟨(play_inv (inv_start c capacity) before).arrival t.tab, gained, hflushes, ?_⟩
  rintro mid rest rfl
  have hplay : play x (start c capacity) (before ++ .finish t ads :: mid) =
      play x (finish x (play x (start c capacity) before) t ads) mid := play_append x _ before _
  obtain ⟨ns, hhanded⟩ := play_handsOver x (finish x (play x (start c capacity) before) t ads) mid
  rw [← hplay] at hhanded
  refine ⟨ns, hhanded.log, fun hnone => ⟨(hhanded.order hnone).symm.trans hflushes.stack, ?_⟩⟩
  rintro hwaited rfl hsound hsections hquiet
  have htracked := run_drainTracked x c capacity ops
  rw [h.run, List.append_nil] at htracked
  rcases hhanded.tended hsound (htended hwaited) with hflag | hempty | hopen
  · cases htracked with
    | idle flag => rw [flag] at hflag; cases hflag
    | ready _ ready =>
      rw [drains, Agenda.pick, List.isEmpty_iff.1 hquiet] at ready
      cases ready
    | waits calling => exact .inr ⟨_, _, _, calling⟩
  · exact .inl hempty
  · omega

-- an ad waits in a section when those who waited for another tab are answered
example :
    let url : Url := ⟨"https".toList, [], [], some (.domain "search.brave.com".toList), none, .segments [], none, none⟩
    let p := run (.withoutPolicy .live .prompt) (start (.ofSnapshot .start) none)
      [.setPage "old" (some (samplePage [sampleAd "c"])) .none, .ingestNow "old" url true, .openSection, .request "old" "c",
        .request "tab" "a", .request "tab" "b", .request "tab" "a", .request "tab" "d",
        .setPage "tab" (some (samplePage [sampleAd "a", sampleAd "b"])) .none, .ingestNow "tab" url true,
        .closeSection 0, .settle]
    p.requests = [.decided true, .decided true, .decided true, .decided false, .decided false] ∧
      p.reported.map (·.creativeInstanceId) = ["b", "a", "c"] := by
  decide +kernel

end AdConfirm.Pipeline
