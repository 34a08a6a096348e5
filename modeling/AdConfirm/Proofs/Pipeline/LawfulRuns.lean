import AdConfirm.Proofs.Pipeline.Clock
import AdConfirm.Proofs.Pipeline.Settling

/-!
Runs of a pipeline are lawful histories.

A turn of a task is a few events, and leaves the attempts in order; so does every punctual beat, and so do settling, letting
time pass, and waiting for an attempt in the middle of a call. What a call does at once leaves them in order too. A pipeline
starts without attempts, so they are in order after every run.

- `Reaches`: what comes after a history by events of tasks alone, with the attempts in order and the clock never set back.
- `UnderWay.proceeds`: a turn of an attempt; it ends, or begins to wait for its page.
- `UnderWay.beat`, `UnderWay.passesTo`, `UnderWay.settles`: beats, time that passes, and settling.
- `UnderWay.steps`: one operation.
- `run_forward`, `run_recounts`: a run is a play of a lawful history in which its operations occur in their order, and no other
  calls; and its clock is never set back.
-/

namespace AdConfirm.Pipeline

open AdConfirm.Loop (Beat)
open AdConfirm.Tab (Ticket)

/-- the tab of an attempt that is begun and never run -/
def Op.neverRun? : Op → Option String
  | .ingestNever tab _ _ => some tab
  | _ => none

/-- the state comes after the history by events of tasks alone, in which the clock is not set back, and the attempts are in
order then -/
def Reaches (x : Setup) (p₀ : Pipeline) (es : List Event) (dropped : List Ticket) (hand : List (Ticket × Arrival × Nat))
    (q : Pipeline) : Prop :=
  ∃ fs, (∀ e ∈ fs, e.isCall = false) ∧ Forward x (play x p₀ es) fs ∧ q = play x p₀ (es ++ fs) ∧
    UnderWay x p₀ (es ++ fs) dropped hand none

variable {x : Setup} {p₀ p q r : Pipeline} {es fs : List Event} {t : Ticket} {e : Event} {a : Arrival} {due : Nat} {s : Stage}
  {dropped : List Ticket} {hand hand' : List (Ticket × Arrival × Nat)}

namespace Reaches

theorem here (h : UnderWay x p₀ es dropped hand none) : Reaches x p₀ es dropped hand (play x p₀ es) :=
  ⟨[], by simp, trivial, by rw [List.append_nil], by rwa [List.append_nil]⟩

theorem bind (h : Reaches x p₀ es dropped hand q)
    (k : ∀ fs, UnderWay x p₀ fs dropped hand none → q = play x p₀ fs → Reaches x p₀ fs dropped hand' r) :
    Reaches x p₀ es dropped hand' r := by
  obtain ⟨fs, hfs, hforward, hq, hunder⟩ := h
  obtain ⟨gs, hgs, hforward', hr, hunder'⟩ := k (es ++ fs) hunder hq
  rw [List.append_assoc] at hr hunder'
  rw [play_append] at hforward'
  exact ⟨fs ++ gs, fun e he => (List.mem_append.1 he).elim (hfs e) (hgs e), forward_append.2 ⟨hforward, hforward'⟩, hr, hunder'⟩

theorem after (h : Reaches x p₀ (es ++ [e]) dropped hand q) (he : e.isCall = false := by rfl)
    (hnow : (play x p₀ es).agenda.now ≤ (perform x (play x p₀ es) e).agenda.now := by
      first | (refine (perform_now ?_).ge; simp; done) | exact le_rfl) :
    Reaches x p₀ es dropped hand q := by
  obtain ⟨fs, hfs, hforward, hq, hunder⟩ := h
  rw [List.append_assoc] at hq hunder
  rw [play_snoc] at hforward
  exact ⟨[e] ++ fs, by simpa [he] using hfs, ⟨hnow, hforward⟩, hq, hunder⟩

/-- one event of a task -/
theorem event (h : UnderWay x p₀ (es ++ [e]) dropped hand none) (he : e.isCall = false := by rfl)
    (hnow : (play x p₀ es).agenda.now ≤ (perform x (play x p₀ es) e).agenda.now := by
      first | (refine (perform_now ?_).ge; simp; done) | exact le_rfl) :
    Reaches x p₀ es dropped hand (perform x (play x p₀ es) e) :=
  play_snoc (x := x) p₀ es e ▸ (here h).after he hnow

end Reaches

/-! ## Turns -/

/-- An attempt that may ask for its page asks for it, and goes on if it does not have to wait. -/
theorem proceed_begun (x : Setup) (p : Pipeline) (t : Ticket) :
    proceed x p t (.begun true) =
      if (p.source.ask x.fetchLimit t).2.1 = 0 then (conclude x (ask x p t) t (p.source.ask x.fetchLimit t).2.2, none)
      else (ask x p t, some ((p.source.ask x.fetchLimit t).2.1, .fetching (p.source.ask x.fetchLimit t).2.2)) := rfl

namespace UnderWay

theorem reaches_conclude (h : UnderWay x p₀ es dropped hand (some t)) (hr : Ready x p₀ es t (.fetching a)) :
    Reaches x p₀ es dropped hand (conclude x (play x p₀ es) t a) := by
  obtain ⟨ads, hplay, hunder⟩ := h.concludes hr
  exact ⟨[.arrive t a, .finish t ads], by simp [Event.isCall], forward_of_call (by simp), hplay, hunder⟩

/-- A turn of an attempt ends it, or the attempt asks for its page and begins to wait. -/
theorem proceeds (h : UnderWay x p₀ es dropped hand (some t)) (hr : Ready x p₀ es t s) :
    (∃ q, proceed x (play x p₀ es) t s = (q, none) ∧ Reaches x p₀ es dropped hand q) ∨
      ∃ time a, 0 < time ∧
        proceed x (play x p₀ es) t s = (play x p₀ (es ++ [.ask t]), some (time, .fetching a)) ∧
        UnderWay x p₀ (es ++ [.ask t]) dropped hand (some t) ∧
        Sleeps x p₀ (es ++ [.ask t]) t a ((play x p₀ (es ++ [.ask t])).agenda.now + time) := by
  cases s with
  | fetching a => exact .inl ⟨_, rfl, h.reaches_conclude hr⟩
  | begun isAdmitted =>
    cases isAdmitted with
    | false =>
      cases hr with
      | begun began unasked undone =>
        exact .inl ⟨_, rfl, .event (h.finishes undone (.gatedOff began unasked))⟩
    | true =>
      have hplay : play x p₀ (es ++ [.ask t]) = ask x (play x p₀ es) t := play_snoc p₀ es _
      have hnow : (play x p₀ (es ++ [.ask t])).agenda.now = (play x p₀ es).agenda.now := by
        rw [hplay]
        rfl
      obtain ⟨hasked, hsleeps⟩ := h.asks hr
      rw [proceed_begun, ← hplay]
      split_ifs with htime
      · rw [htime] at hsleeps
        exact .inl ⟨_, rfl, (hasked.reaches_conclude (.due hsleeps hnow)).after⟩
      · rw [← hnow] at hsleeps
        exact .inr ⟨_, _, Nat.pos_of_ne_zero htime, rfl, hasked, hsleeps⟩

/-- A turn of an attempt leaves the attempts in order. -/
theorem turn_ingest (h : UnderWay x p₀ es dropped hand (some t)) (hr : Ready x p₀ es t s) :
    Reaches x p₀ es dropped hand (turn x (play x p₀ es) (.ingest t s)) := by
  rcases h.proceeds hr with ⟨q, hproceed, hreaches⟩ | ⟨time, a, htime, hproceed, hasked, hsleeps⟩
  · simp only [turn, hproceed]
    exact hreaches
  · simp only [turn, hproceed]
    exact (Reaches.event (hasked.slept hsleeps (Nat.lt_add_of_pos_right htime))).after

/-- A new attempt with a task of its own goes into the line. -/
theorem reaches_ingest (h : UnderWay x p₀ es dropped hand none) (tab : String) (url : Url) (trigger : Bool) :
    Reaches x p₀ (es ++ [.begin tab url trigger]) dropped hand (ingest x (play x p₀ es) tab url trigger) := by
  obtain ⟨hbegun, hready⟩ := h.begins tab url trigger
  have hplay : play x p₀ (es ++ [.begin tab url trigger]) = (begin x (play x p₀ es) tab url trigger).1 := play_snoc p₀ es _
  have hspawned := Reaches.event (hbegun.engage.spawned hready)
  rw [hplay] at hspawned
  exact hspawned

theorem reaches_follow (h : UnderWay x p₀ es dropped hand none) (e : TabEvent) :
    Reaches x p₀ es dropped hand (follow x (play x p₀ es) e) := by
  cases e with
  | loaded tab url trigger => exact (h.reaches_ingest tab url trigger).after
  | navigated tab => exact .event (h.aside (e := .reset tab) rfl rfl)
  | closed tab => exact .event (h.aside (e := .reset tab) rfl rfl)

theorem reaches_listen (n : Nat) (h : UnderWay x p₀ es dropped hand none) :
    Reaches x p₀ es dropped hand (listen x n (play x p₀ es)).1 := by
  induction n generalizing es with
  | zero => exact .here h
  | succ n ih =>
    have hreceive : UnderWay x p₀ (es ++ [.receive]) dropped hand none := h.aside (e := .receive) rfl rfl
    have hplay : play x p₀ (es ++ [.receive]) = (play x p₀ es).receive := play_snoc p₀ es _
    unfold listen
    split
    · next bus e hr =>
      have hbus : play x p₀ (es ++ [.receive]) = { play x p₀ es with bus } := hplay.trans (by rw [receive, hr])
      rw [← hbus]
      refine (hreceive.reaches_follow e).after.bind fun fs hfs hq => ?_
      rw [hq]
      exact ih hfs
    · next bus missed hr =>
      have hbus : play x p₀ (es ++ [.receive]) = Pipeline.note { play x p₀ es with bus } (.lagged missed) :=
        hplay.trans (by rw [receive, hr])
      rw [← hbus]
      exact (ih hreceive).after
    · exact .here h
    · exact .here h

/-- A turn of a task that is no attempt leaves the attempts in order. -/
theorem turn_other (h : UnderWay x p₀ es dropped hand none) {t : Task} (ht : t.attempt? = none) :
    Reaches x p₀ es dropped hand (turn x (play x p₀ es) t) := by
  -- a task that goes to sleep again is no attempt either
  have asleep {es : List Event} (h : UnderWay x p₀ es dropped hand none) (due : Nat) {t : Task} (ht : t.attempt? = none) :
      Reaches x p₀ es dropped hand { play x p₀ es with agenda := (play x p₀ es).agenda.sleepUntil due t } :=
    .event (h.rearranged (by rw [Agenda.pick_sleepUntil, ht]; simp [underway]))
  cases t with
  | ingest t s => cases ht
  | drain d =>
    have hdrain : UnderWay x p₀ (es ++ [.drain d]) dropped hand none := h.aside (e := .drain d) rfl rfl
    have hplay : play x p₀ (es ++ [.drain d]) = (play x p₀ es).drain x d := play_snoc p₀ es _
    unfold drain at hplay
    simp only [turn, ← hplay]
    split
    · exact (Reaches.here hdrain).after
    · exact (asleep hdrain _ rfl).after
  | timer e =>
    cases e with
    | set path ttl => exact asleep h _ rfl
    | due path => exact .event (h.aside (e := .expire path) rfl rfl)
  | listen =>
    have hlisten := h.reaches_listen deliveriesPerTurn
    simp only [turn]
    split
    · refine hlisten.bind fun fs hfs hq => ?_
      rw [hq]
      exact .event (hfs.rearranged (by rw [Agenda.pick_spawn]; simp [underway, Task.attempt?]))
    · refine hlisten.bind fun fs hfs hq => ?_
      rw [hq]
      exact .event (hfs.rearranged (Agenda.pick_sleep rfl))

/-! ## Time -/

/-- A punctual beat leaves the attempts in order. -/
theorem beat (h : UnderWay x p₀ es dropped hand none) (b : Beat) :
    Reaches x p₀ es dropped hand ((loop x).punctualBeat (play x p₀ es) b) := by
  cases b with
  | turn =>
    cases hready : (play x p₀ es).agenda.ready with
    | nil =>
      have hbeat : (loop x).punctualBeat (play x p₀ es) .turn = play x p₀ es := by
        simp [Loop.punctualBeat, Loop.beat, Loop.next?, loop, hready]
      rw [hbeat]
      exact .here h
    | cons t rest =>
      have hbeat : (loop x).punctualBeat (play x p₀ es) .turn =
          Pipeline.turn x (play x p₀ (es ++ [.arrange { (play x p₀ es).agenda with ready := rest }])) t := by
        simp only [Loop.punctualBeat, Loop.beat, Loop.next?, loop, hready, play_snoc]
        rfl
      rw [hbeat]
      cases ht : t.attempt? with
      | none =>
        have hsame : Agenda.pick Task.attempt? { (play x p₀ es).agenda with ready := rest } = (play x p₀ es).underway := by
          simp [underway, Agenda.pick, hready, ht]
        exact ((h.rearranged hsame).turn_other ht).after
      | some attempt =>
        cases t with
        | ingest u s =>
          obtain ⟨hbusy, hfirst⟩ := h.taken hready
          exact (hbusy.turn_ingest hfirst).after
        | _ => cases ht
  | moveTo time =>
    simp only [Loop.punctualBeat, Loop.orderlyBeat]
    split_ifs with hdue horder
    · refine .event (h.moves (List.isEmpty_iff.1 horder.1) fun next hnext => ?_) rfl horder.2
      have hdue' : (play x p₀ es).agenda.nextDue?.all (time ≤ ·) = true := hdue
      simpa [hnext] using hdue'
    · exact .here h
    · exact .here h

theorem beats (h : UnderWay x p₀ es dropped hand none) (bs : List Beat) :
    Reaches x p₀ es dropped hand ((loop x).punctualBeats (play x p₀ es) bs) := by
  induction bs generalizing es with
  | nil => exact .here h
  | cons b bs ih =>
    refine (h.beat b).bind fun fs hfs hq => ?_
    have hrest := ih hfs
    rw [← hq] at hrest
    exact hrest

theorem settles (h : UnderWay x p₀ es dropped hand none) : Reaches x p₀ es dropped hand ((loop x).settle (play x p₀ es)) := by
  obtain ⟨-, -, bs, hbs⟩ := (loop_settles x).settle_punctual (play x p₀ es)
  exact hbs ▸ h.beats bs

theorem advances (h : UnderWay x p₀ es dropped hand none) (ms : Nat) :
    Reaches x p₀ es dropped hand ((loop x).advance (play x p₀ es) ms) := by
  obtain ⟨-, -, bs, hbs⟩ := (loop_settles x).advance_punctual (play x p₀ es) ms
  exact hbs ▸ h.beats bs

theorem passesTo (h : UnderWay x p₀ es dropped hand none) {instant : Nat} (hle : (play x p₀ es).agenda.now ≤ instant) :
    Reaches x p₀ es dropped hand ((loop x).passTo instant (play x p₀ es) (play x p₀ es).agenda.now) := by
  obtain ⟨-, bs, hbs⟩ := (loop_settles x).passTo_punctual instant (play x p₀ es) _ rfl hle
  exact hbs ▸ h.beats bs

end UnderWay

/-! ## Operations -/

namespace UnderWay

/-- An attempt that is waited for ends when its time has come. -/
theorem reaches_end (h : UnderWay x p₀ es dropped [] (some t)) {time : Nat}
    (hs : Sleeps x p₀ es t a ((play x p₀ es).agenda.now + time)) :
    Reaches x p₀ es dropped []
      (conclude x ((loop x).passTo ((play x p₀ es).agenda.now + time) (play x p₀ es) (play x p₀ es).agenda.now) t a) := by
  have hle : (play x p₀ es).agenda.now ≤ (play x p₀ es).agenda.now + time := Nat.le_add_right _ _
  have hclock : ((loop x).passTo ((play x p₀ es).agenda.now + time) (play x p₀ es) (play x p₀ es).agenda.now).agenda.now =
      (play x p₀ es).agenda.now + time := ((loop_settles x).passTo_punctual _ _ _ rfl hle).1
  refine ((h.hold hs).passesTo hle).bind fun fs hfs hq => ?_
  rw [hq] at hclock ⊢
  obtain ⟨hbusy, hready⟩ := hfs.resume hclock
  exact hbusy.reaches_conclude hready

/-- An attempt that is waited for in the middle of a call ends in it. -/
theorem reaches_ingestNow (h : UnderWay x p₀ es dropped [] none) (tab : String) (url : Url) (trigger : Bool) :
    Reaches x p₀ (es ++ [.begin tab url trigger]) dropped [] (ingestNow x (play x p₀ es) tab url trigger) := by
  obtain ⟨hbegun, hready⟩ := h.begins tab url trigger
  have hplay : play x p₀ (es ++ [.begin tab url trigger]) = (begin x (play x p₀ es) tab url trigger).1 := play_snoc p₀ es _
  have hticket : (begin x (play x p₀ es) tab url trigger).2 =
      (((play x p₀ es).sessions.begin tab).2, mayAsk x (play x p₀ es) url trigger) := rfl
  unfold ingestNow
  generalize begin x (play x p₀ es) tab url trigger = begun at hplay hticket
  obtain ⟨p, t, isAdmitted⟩ := begun
  obtain ⟨rfl, rfl⟩ := Prod.mk.inj hticket
  rcases hbegun.engage.proceeds hready with ⟨q, hproceed, hreaches⟩ | ⟨time, a, -, hproceed, hasked, hsleeps⟩
  · rw [hplay] at hproceed
    simp only [hproceed]
    exact hreaches
  · rw [hplay] at hproceed
    simp only [hproceed]
    exact (hasked.reaches_end hsleeps).after

/-- **An operation leaves the attempts in order**: it is the call that it begins with, and events of tasks after that. -/
theorem steps (h : UnderWay x p₀ es dropped [] none) (o : Op) :
    ∃ never : List Ticket, never.map (·.tab) = o.neverRun?.toList ∧
      Reaches x p₀ (es ++ o.event?.toList) (never ++ dropped) [] (step x (play x p₀ es) o) := by
  -- most operations are over with their call
  have call (e : Event) {dropped : List Ticket} (hcall : UnderWay x p₀ (es ++ [e]) dropped [] none) :
      Reaches x p₀ (es ++ [e]) dropped [] (perform x (play x p₀ es) e) :=
    play_snoc (x := x) p₀ es e ▸ .here hcall
  cases o with
  | settle =>
    refine ⟨[], rfl, ?_⟩
    rw [Op.event?, Option.toList_none, List.append_nil]
    exact h.settles
  | advance ms =>
    refine ⟨[], rfl, ?_⟩
    rw [Op.event?, Option.toList_none, List.append_nil]
    exact h.advances ms
  | release tab => exact ⟨[], rfl, call _ (h.releases tab)⟩
  | ingestNow tab url trigger => exact ⟨[], rfl, h.reaches_ingestNow tab url trigger⟩
  | ingestNever tab url trigger => exact ⟨[_], rfl, call (.begin tab url trigger) (h.begins tab url trigger).1⟩
  | ingest tab url trigger => exact ⟨[], rfl, h.reaches_ingest tab url trigger⟩
  | shutDown =>
    have hleft : UnderWay x p₀ (es ++ [.leave]) dropped [] none := h.aside (e := .leave) rfl rfl
    have hcancelled := Reaches.event (hleft.rearranged (a := (play x p₀ (es ++ [.leave])).agenda.cancel isListen)
      (Agenda.pick_cancel fun t u ht => by cases t <;> first | rfl | cases ht))
    refine ⟨[], rfl, hcancelled.bind fun fs hfs hq => ?_⟩
    have hsettle := hfs.settles
    rw [← hq, play_snoc] at hsettle
    exact hsettle
  | _ => exact ⟨[], rfl, call _ (h.aside rfl rfl)⟩

end UnderWay

/-! ## Runs -/

/-- A pipeline starts without attempts. -/
theorem underWay_start (x : Setup) (c : Policy.Center) (capacity : Option Nat) :
    UnderWay x (start c capacity) [] [] [] none := by
  have hempty : (start c capacity).underway = Agenda.empty ∧ (start c capacity).source = .empty := by
    unfold start
    cases capacity <;> exact ⟨rfl, rfl⟩
  obtain ⟨hunder, hsource⟩ := hempty
  have hfetches : Fetches x (start c capacity) [] := by
    refine ⟨?_, ?_, fun t time hgo => absurd hgo not_ever_nil, fun t time time' hgo => absurd hgo not_ever_nil⟩
    · intro t ht
      rw [play, List.foldl_nil, hsource] at ht
      cases ht
    · intro t ht
      rw [play, List.foldl_nil, hsource] at ht
      cases ht
  refine ⟨lawful_nil, ?_, ?_, nofun, nofun, nofun, ?_, fun t ok hbegan => absurd hbegan not_ever_nil, hfetches⟩
  · intro t s ht
    rw [play, List.foldl_nil, hunder] at ht
    cases ht
  · intro z hz
    rw [play, List.foldl_nil, hunder] at hz
    cases hz
  · rw [play, List.foldl_nil, hunder]
    exact List.nodup_nil

/-- the history is that of the run: it has the operations that come from outside in their order, and no other calls; of the
attempts that began in it these are never run, and all others are in order -/
structure Recounts (x : Setup) (p₀ : Pipeline) (ops : List Op) (es : List Event) (dropped : List Ticket) : Prop where
  run : run x p₀ ops = play x p₀ es
  calls_in_order : (ops.filterMap Op.event?).Sublist es
  no_other_calls : es.filter Event.isCall = (ops.filterMap Op.event?).filter Event.isCall
  never_run : dropped.map (·.tab) = ops.filterMap Op.neverRun?
  underWay : UnderWay x p₀ es dropped.reverse [] none

theorem Recounts.snoc {ops : List Op} (h : Recounts x p₀ ops es dropped) (hforward : Forward x p₀ es) (o : Op) :
    ∃ fs never, Recounts x p₀ (ops ++ [o]) fs (dropped ++ never) ∧ Forward x p₀ fs := by
  obtain ⟨never, hnever, fs, hfs, hlater, hstep, hunder⟩ := h.underWay.steps o
  have hnone : fs.filter Event.isCall = [] := List.filter_eq_nil_iff.2 fun e he => by simp [hfs e he]
  have hops : (ops ++ [o]).filterMap Op.event? = ops.filterMap Op.event? ++ o.event?.toList := by
    cases ho : o.event? <;> simp [ho]
  have hcall : Forward x (play x p₀ es) o.event?.toList := forward_of_call (by cases o <;> simp [Op.event?])
  refine ⟨es ++ o.event?.toList ++ fs, never.reverse, ⟨?_, ?_, ?_, ?_, ?_⟩, ?_⟩
  · rw [← hstep, ← h.run]
    exact List.foldl_append
  · rw [hops]
    exact (h.calls_in_order.append (.refl _)).trans (List.sublist_append_left _ fs)
  · rw [hops, List.filter_append, List.filter_append, List.filter_append, hnone, h.no_other_calls, List.append_nil]
  · rw [List.map_append, h.never_run, List.map_reverse, hnever]
    cases ho : o.neverRun? <;> simp [ho]
  · rw [List.reverse_append, List.reverse_reverse]
    exact hunder
  · exact forward_append.2 ⟨forward_append.2 ⟨hforward, hcall⟩, hlater⟩

/-- A run is a play of a lawful history, in which the clock is never set back. -/
theorem run_forward (x : Setup) (c : Policy.Center) (capacity : Option Nat) (ops : List Op) :
    ∃ es dropped, Recounts x (start c capacity) ops es dropped ∧ Forward x (start c capacity) es := by
  induction ops using List.reverseRecOn with
  | nil => exact ⟨[], [], ⟨rfl, .refl _, rfl, rfl, underWay_start x c capacity⟩, trivial⟩
  | append_singleton ops o ih =>
    obtain ⟨es, dropped, h, hforward⟩ := ih
    obtain ⟨fs, never, hsnoc⟩ := h.snoc hforward o
    exact ⟨fs, dropped ++ never, hsnoc⟩

/-- **A run is a play of a lawful history.** -/
theorem run_recounts (x : Setup) (c : Policy.Center) (capacity : Option Nat) (ops : List Op) :
    ∃ es dropped, Recounts x (start c capacity) ops es dropped := by
  obtain ⟨es, dropped, h, -⟩ := run_forward x c capacity ops
  exact ⟨es, dropped, h⟩

end AdConfirm.Pipeline
