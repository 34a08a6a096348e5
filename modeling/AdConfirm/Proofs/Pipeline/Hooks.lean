import AdConfirm.Proofs.Pipeline.Flush

/-!
The hooks that the end of an attempt fires.

Every attempt that ends fires all hooks that have not been fired, whatever it found, and does so when everything else that its
end means is done. So a hook is fired once, by the attempt that ends first after it was set.

- `perform_hooks`: only setting a hook adds one, and only the end of an attempt fires any.
- `play_hook`: what becomes of a hook.
- `finish_unhooked`: the end of an attempt, before it fires the hooks.
- `hooks_fire_first`: all of this, of every run.
-/

namespace AdConfirm.Pipeline

open AdConfirm.Tab (Ticket Waiting)

/-- the tab of the attempt that an event ends -/
def Event.ended? : Event → Option String
  | .finish t _ => some t.tab
  | _ => none

def Event.isHook : Event → Bool
  | .hook => true
  | _ => false

variable {x : Setup} {p : Pipeline} {e : Event} {es : List Event} {t : Ticket}

/-! ## Who touches the hooks -/

theorem adopt_hooks (p : Pipeline) (qu : Dispatch.Queue × Bool) : (p.adopt qu).hooks = p.hooks := by
  unfold adopt
  split <;> rfl

theorem resolve_hooks (p : Pipeline) (tab id : String) : (p.resolve tab id).1.hooks = p.hooks := by
  unfold resolve
  split
  · rfl
  · simp only [note, adopt_hooks]

theorem answer_fold_hooks (isReporting : Bool) (tab : String) (ws : List Waiting) (p : Pipeline) :
    (ws.foldl (answer isReporting tab) p).hooks = p.hooks := by
  refine List.foldlRecOn (motive := fun q : Pipeline => q.hooks = p.hooks) ws _ rfl fun q hq w _ => ?_
  cases isReporting with
  | false => exact hq
  | true => exact (resolve_hooks q tab w.ad).trans hq

theorem answerAll_hooks (isReporting : Bool) (tab : String) (ws : List Waiting) (p : Pipeline) :
    (p.answerAll isReporting tab ws).hooks = p.hooks := by
  unfold answerAll
  split_ifs
  · rfl
  · rw [adopt_hooks, answer_fold_hooks]

/-- The end of an attempt, before it fires the hooks: if the attempt is still the current one of its tab, those who waited have
been answered and their ads queued; else nothing has happened to requests, lines and the queue. -/
theorem finish_unhooked (x : Setup) (p : Pipeline) (t : Ticket) (ads : AdMap) :
    ∃ q, finish x p t ads = q.fireHooks t.tab ∧ q.hooks = p.hooks ∧
      (p.sessions.isCurrent t = true → ∃ gained, Flushes x p q t ads gained) ∧
      (p.sessions.isCurrent t = false → q.requests = p.requests ∧ (∀ tab, q.line tab = p.line tab) ∧ q.queue = p.queue) := by
  cases hcurrent : p.sessions.isCurrent t with
  | true =>
    obtain ⟨gained, h, -⟩ := finish_flushes x ads hcurrent
    rw [finish_eq ads hcurrent] at h ⊢
    exact ⟨_, rfl, answerAll_hooks _ _ _ _,
      fun _ => ⟨gained, h.answered, h.requests, h.line, h.silent, h.theirs, h.stack, h.unreported⟩, nofun⟩
  | false =>
    obtain ⟨hrequests, hline⟩ := finish_refused x p ads hcurrent
    rw [finish_late ads hcurrent] at hrequests hline ⊢
    exact ⟨_, rfl, rfl, nofun, fun _ => ⟨hrequests, hline, rfl⟩⟩

theorem request_hooks (x : Setup) (p : Pipeline) (tab id : String) : (Pipeline.request x p tab id).1.hooks = p.hooks := by
  cases hr : x.gate.reports p.center with
  | false => simp only [request_unreported x p tab id hr, note]
  | true =>
    cases ha : (p.sessions.slot tab).ads with
    | none => simp only [request_waits x p id hr ha, note]
    | some ads =>
      simp only [request_ready x p id hr (by rw [ha]; rfl)]
      exact resolve_hooks p tab id

theorem perform_keeps_hooks (x : Setup) (p : Pipeline) (hf : ∀ t ads, e ≠ .finish t ads) (hh : e ≠ .hook) :
    (perform x p e).hooks = p.hooks := by
  cases e with
  | finish t ads => exact absurd rfl (hf t ads)
  | hook => exact absurd rfl hh
  | request tab id => exact request_hooks x p tab id
  | resolve tab id => exact resolve_hooks p tab id
  | reset tab =>
    simp only [perform, Pipeline.reset]
    split_ifs
    · rfl
    · exact List.foldlRecOn (motive := fun q : Pipeline => q.hooks = p.hooks) _ _ rfl fun _ hq _ _ => hq
  | begin tab url trigger =>
    simp only [perform, Pipeline.begin]
    split_ifs <;> rfl
  | arrive t a =>
    simp only [perform, Pipeline.arrive]
    split_ifs <;> rfl
  | release tab =>
    simp only [perform, Pipeline.release]
    split <;> rfl
  | closeSection i =>
    simp only [perform, Pipeline.closeSection]
    split_ifs
    · exact adopt_hooks _ _
    · rfl
  | apply s =>
    simp only [perform, Pipeline.apply]
    split <;> rfl
  | publish e =>
    simp only [perform, Pipeline.publish?]
    cases p.bus.publish? e <;> rfl
  | receive =>
    simp only [perform, Pipeline.receive]
    split <;> rfl
  | drain d => exact List.foldlRecOn (motive := fun q : Pipeline => q.hooks = p.hooks) _ _ rfl fun _ hq _ _ => hq
  | _ => rfl

/-- **Only setting a hook adds one, and only the end of an attempt fires any**: all that have not been fired. -/
theorem perform_hooks (x : Setup) (p : Pipeline) (e : Event) :
    (perform x p e).hooks = p.hooks.map (·.or e.ended?) ++ if e.isHook then [none] else [] := by
  have kept (hf : ∀ t ads, e ≠ .finish t ads) (hh : e ≠ .hook) : (perform x p e).hooks = p.hooks.map (·.or none) ++ [] := by
    simp [perform_keeps_hooks x p hf hh]
  cases e with
  | hook => simp [perform, hook, Event.ended?, Event.isHook]
  | finish t ads =>
    obtain ⟨q, hfinish, hhooks, -⟩ := finish_unhooked x p t ads
    rw [perform, hfinish, fireHooks, hhooks]
    refine (List.map_congr_left fun h _ => ?_).trans (List.append_nil _).symm
    cases h <;> rfl
  | _ => exact kept (by simp) (by simp)

/-! ## What becomes of a hook -/

/-- **A hook that was fired stays so; any other is fired by the first attempt that ends.** -/
theorem play_hook {i : Nat} {h : Option String} (hi : p.hooks[i]? = some h) (es : List Event) :
    (play x p es).hooks[i]? = some (h.or (es.findSome? Event.ended?)) := by
  induction es generalizing p h with
  | nil => simpa [play] using hi
  | cons e es ih =>
    have hperform : (perform x p e).hooks[i]? = some (h.or e.ended?) := by
      have hlt : i < (p.hooks.map (·.or e.ended?)).length := by simpa using (List.getElem?_eq_some_iff.1 hi).1
      rw [perform_hooks, List.getElem?_append_left hlt, List.getElem?_map, hi, Option.map_some]
    rw [play_cons, ih hperform, List.findSome?_cons, Option.or_assoc]
    cases e.ended? <;> simp

theorem play_hooks_length (x : Setup) (p : Pipeline) (es : List Event) :
    (play x p es).hooks.length = p.hooks.length + es.countP Event.isHook := by
  induction es generalizing p with
  | nil => rfl
  | cons e es ih =>
    rw [play_cons, ih, perform_hooks, List.countP_cons]
    cases e.isHook with
    | true => simp; omega
    | false => simp

/-! ## Runs -/

theorem start_hooks (c : Policy.Center) (capacity : Option Nat) : (start c capacity).hooks = [] := by
  unfold start
  cases capacity <;> rfl

theorem isCall_of_isHook (h : e.isHook = true) : e.isCall = true := by
  cases e <;> first | rfl | cases h

/-- **A hook is fired once, by the attempt that ends first after it was set, when all else is done.** Every run is a play of
events, in which its operations from outside occur in their order, and no other calls, and its journal tells what these events
did. There are as many hooks as operations that set one. A hook has not been fired when it is set; from then on it has the tab
of the first attempt that has ended since, of whatever tab, and keeps it. An attempt ends once, in one of the ways in which
attempts end. Whether it is still the current one of its tab or not, its end fires all hooks that have not been fired, and no
other, after it has done everything else: if it is the current one, those who waited for it have been answered and their ads
queued; else requests, lines and the queue are as they were. -/
theorem hooks_fire_first (x : Setup) (c : Policy.Center) (capacity : Option Nat) (ops : List Op) :
    ∃ (es : List Event) (dropped : List Ticket), let p₀ := start c capacity
      (run x p₀ ops = play x p₀ es ∧ (ops.filterMap Op.event?).Sublist es ∧
        es.filter Event.isCall = (ops.filterMap Op.event?).filter Event.isCall ∧
        (run x p₀ ops).chronicle = yields (fun before e => e.entries x (play x p₀ before)) [] es ∧
        dropped.map (·.tab) = ops.filterMap Op.neverRun?) ∧
      (run x p₀ ops).hooks.length = (ops.filterMap Op.event?).countP Event.isHook ∧
      (∀ before mid rest, es = before ++ .hook :: (mid ++ rest) →
        (play x p₀ (before ++ .hook :: mid)).hooks[(play x p₀ before).hooks.length]? = some (mid.findSome? Event.ended?)) ∧
      ∀ before t ads after, es = before ++ .finish t ads :: after →
        let p := play x p₀ before
        ¬ Done before t ∧ Ends x p₀ before t ads ∧
          (play x p₀ (before ++ [.finish t ads])).hooks = p.hooks.map (·.or (some t.tab)) ∧
          ∃ q, play x p₀ (before ++ [.finish t ads]) = q.fireHooks t.tab ∧ q.hooks = p.hooks ∧
            (p.sessions.isCurrent t = true → ∃ gained, Flushes x p q t ads gained) ∧
            (p.sessions.isCurrent t = false →
              q.requests = p.requests ∧ (∀ tab, q.line tab = p.line tab) ∧ q.queue = p.queue) := by
  obtain ⟨es, dropped, h⟩ := run_recounts x c capacity ops
  refine ⟨es, dropped, ⟨h.run, h.calls_in_order, h.no_other_calls, h.chronicle, h.never_run⟩, ?_, ?_, ?_⟩
  · -- a hook is set by a call, and no other calls were made
    have hcount (es : List Event) : (es.filter Event.isCall).countP Event.isHook = es.countP Event.isHook := by
      rw [List.countP_filter]
      refine List.countP_congr fun e _ => ?_
      rw [Bool.and_eq_true]
      exact ⟨And.left, fun hhook => ⟨hhook, isCall_of_isHook hhook⟩⟩
    rw [h.run, play_hooks_length, start_hooks, List.length_nil, Nat.zero_add, ← hcount es, h.no_other_calls, hcount]
  · rintro before mid rest -
    rw [play_append, play_cons]
    refine play_hook (h := none) ?_ mid
    rw [perform_hooks, List.getElem?_append_right (by simp)]
    simp [Event.isHook]
  · rintro before t ads after heq
    obtain ⟨undone, ends⟩ := h.underWay.lawful before _ after heq
    rw [play_snoc]
    refine ⟨undone, ends, ?_, finish_unhooked x _ t ads⟩
    rw [perform_hooks]
    exact List.append_nil _

-- the first hook waits through the fetch; the second is set when the attempt has ended
example :
    let url : Url := ⟨"https".toList, [], [], some (.domain "search.brave.com".toList), none, .segments [], none, none⟩
    (run (.withoutPolicy .live .prompt) (start (.ofSnapshot .start) none)
      [.setPage "tab" none (.after 5), .hook, .ingest "tab" url true, .settle, .reset "tab", .advance 5, .hook]).hooks =
        [some "tab", none] := by
  decide +kernel

end AdConfirm.Pipeline
