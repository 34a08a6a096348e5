import AdConfirm.Proofs.Dispatch.NewestFirst
import AdConfirm.Proofs.Dispatch.SingleCall

/-!
The counters of a queue balance.

The queue counts in four places: when an ad is queued, when an entry is handed over, and when a call ends well or badly. What
it should have counted is told by its notes, and how a call ends is told by the call.

- `Call.succeeds`, `Call.fails`, `Call.panics`: how a call ends under a limit, read off the call; it is exactly one of the three.
- `Drains.counters`, `turn_counters`: a turn counts its notes. `counters_play`: so the counters are the count of all notes.
- `Follows.counts`, `Follows.ends`: what notes that follow each other count, and which calls have ended.
- `counters_balance`: the laws of the counters as a whole.
-/

namespace AdConfirm.Dispatch

/-- whether a call reports success, and not after the limit -/
def Call.succeeds (limit : Nat) (c : Call) : Bool :=
  match c.ending with
  | .answers success _ => success && c.delay ≤ limit
  | .breaksDown => false
  | .hangs => false

/-- whether a call reports failure, not after the limit, or is not over by then -/
def Call.fails (limit : Nat) (c : Call) : Bool :=
  match c.ending with
  | .answers success _ => !success || limit < c.delay
  | .breaksDown => limit < c.delay
  | .hangs => true

/-- whether a call breaks down, and not after the limit -/
def Call.panics (limit : Nat) (c : Call) : Bool :=
  match c.ending with
  | .answers _ _ => false
  | .breaksDown => c.delay ≤ limit
  | .hangs => false

/-- the entries whose calls have ended, the first first -/
def endedIn (ns : List Note) : List Entry :=
  ns.filterMap fun n => match n with
    | .ended e _ => some e
    | _ => none

def Note.onCounters (n : Counters) : Note → Counters
  | .queued _ => { n with enqueued := n.enqueued + 1 }
  | .started _ => { n with started := n.started + 1 }
  | .ended _ (.recorded _) => { n with succeeded := n.succeeded + 1 }
  | .ended _ (.failed _) => { n with failed := n.failed + 1 }
  | .ended _ .brokeDown => n

/-- no counter is smaller -/
structure Counters.Le (n m : Counters) : Prop where
  enqueued : n.enqueued ≤ m.enqueued
  started : n.started ≤ m.started
  succeeded : n.succeeded ≤ m.succeeded
  failed : n.failed ≤ m.failed

theorem Counters.Le.refl (n : Counters) : n.Le n := ⟨le_rfl, le_rfl, le_rfl, le_rfl⟩

theorem Counters.Le.trans {n m k : Counters} (h : n.Le m) (h' : m.Le k) : n.Le k :=
  ⟨h.enqueued.trans h'.enqueued, h.started.trans h'.started, h.succeeded.trans h'.succeeded, h.failed.trans h'.failed⟩

/-! ## How calls end -/

/-- A call succeeds, fails or breaks down, and only one of these. -/
theorem Call.ends_once (limit : Nat) (c : Call) :
    (c.succeeds limit).toNat + (c.fails limit).toNat + (c.panics limit).toNat = 1 := by
  unfold succeeds fails panics
  cases c.ending with
  | answers success placement => cases success <;> by_cases h : c.delay ≤ limit <;> simp [h, Nat.not_lt.2, Nat.lt_of_not_le]
  | breaksDown => by_cases h : c.delay ≤ limit <;> simp [h, Nat.not_lt.2, Nat.lt_of_not_le]
  | hangs => rfl

/-- What comes of a call under a limit is what the call does. -/
theorem Call.under_outcome (limit : Nat) (c : Call) (n : Counters) (e : Entry) :
    Note.onCounters n (.ended e (c.under limit).2) =
      { n with
        succeeded := n.succeeded + (c.succeeds limit).toNat
        failed := n.failed + (c.fails limit).toNat } := by
  unfold under succeeds fails
  by_cases h : limit < c.delay
  · cases c.ending with
    | answers success placement => cases success <;> simp [h, Note.onCounters]
    | breaksDown => simp [h, Note.onCounters]
    | hangs => simp [h, Note.onCounters]
  · have hle : c.delay ≤ limit := Nat.not_lt.1 h
    cases c.ending with
    | answers success placement => cases success <;> simp [h, hle, Note.onCounters]
    | breaksDown => simp [h, Note.onCounters]
    | hangs => simp [h, Note.onCounters]

/-- Of some calls each succeeds, fails or breaks down. -/
theorem length_eq_counts (reporter : Reporter) (limit : Nat) (es : List Entry) :
    es.length = (es.countP fun e => (reporter e).succeeds limit) + (es.countP fun e => (reporter e).fails limit) +
      es.countP fun e => (reporter e).panics limit := by
  induction es with
  | nil => rfl
  | cons e es ih =>
    have honce := (reporter e).ends_once limit
    simp only [Bool.toNat, Bool.cond_eq_ite] at honce
    simp only [List.length_cons, List.countP_cons]
    omega

/-! ## What a turn counts -/

variable {reporter : Reporter} {limit : Nat}

theorem counters_finish (q : Queue) (e : Entry) (o : Outcome) :
    (q.finish o).counters = Note.onCounters q.counters (.ended e o) := by
  cases o <;> rfl

theorem Drains.counters {q : Queue} {t : DrainTurn} (h : Drains reporter limit q t) :
    t.queue.counters = t.notes.foldl Note.onCounters q.counters := by
  induction h with
  | held | emptied | broke | waits => rfl
  | goesOn q e rest o t hs hq hc ho h ih => rw [ih, counters_finish _ e]; rfl

/-- A turn counts its notes. -/
theorem turn_counters (q : Queue) (d : Drain) :
    (q.turn reporter limit d).queue.counters = (q.turn reporter limit d).notes.foldl Note.onCounters q.counters := by
  rcases turn_cases reporter limit q d with ⟨-, h⟩ | ⟨e, -, h⟩ | ⟨e, o, t, -, -, ht, h⟩
  · exact h.counters
  · rw [h]
    rfl
  · rw [h, List.foldl_cons, ← counters_finish]
    exact ht.counters

/-! ## What notes that follow each other count -/

/-- Every note of an ad queued, an entry handed over and a call that ended is counted, and calls are counted as they end. -/
theorem Follows.counts {v w : View} {ns : List Note} (h : Follows reporter limit v ns w) (n : Counters) :
    ns.foldl Note.onCounters n =
      ⟨n.enqueued + (queuedIn ns).length, n.started + (handedIn ns).length,
        n.succeeded + (endedIn ns).countP fun e => (reporter e).succeeds limit,
        n.failed + (endedIn ns).countP fun e => (reporter e).fails limit⟩ := by
  induction h generalizing n with
  | done v => rfl
  | queued e h ih =>
    rw [List.foldl_cons, ih]
    simp [Note.onCounters, queuedIn, handedIn, endedIn, Nat.add_assoc, Nat.add_comm 1]
  | started e h ih =>
    rw [List.foldl_cons, ih]
    simp [Note.onCounters, queuedIn, handedIn, endedIn, Nat.add_assoc, Nat.add_comm 1]
  | @ended e ws o ns v ho h ih =>
    rw [List.foldl_cons, ih, ho, Call.under_outcome]
    simp [queuedIn, handedIn, endedIn, List.countP_cons, Bool.toNat, Bool.cond_eq_ite, Nat.add_assoc, Nat.add_comm (ite _ _ _)]

/-- The calls that have ended and the one in flight are those that were in flight and those that started. -/
theorem Follows.ends {v w : View} {ns : List Note} (h : Follows reporter limit v ns w) :
    (endedIn ns ++ w.calls).Perm (v.calls ++ handedIn ns) := by
  induction h with
  | done v => simp [endedIn, handedIn]
  | queued e h ih => exact ih
  | started e h ih => exact ih
  | ended e ho h ih => exact ih.cons e

namespace Machine

theorem counters_claim (q : Queue) : q.claim.1.counters = q.counters := by
  unfold Queue.claim
  split_ifs <;> rfl

theorem Turned.counters {m m' : Machine} {d : Drain} (t : Turned reporter limit m d m') :
    m'.queue.counters = (m.queue.turn reporter limit d).notes.foldl Note.onCounters m.queue.counters := by
  rw [t.queue]
  exact turn_counters m.queue d

/-- An act counts the notes that it adds to the history. -/
theorem act_counters {m : Machine} (h : Inv reporter limit m) (a : Act) :
    ∃ notes, (m.act reporter limit a).history = m.history ++ notes ∧
      (m.act reporter limit a).queue.counters = notes.foldl Note.onCounters m.queue.counters := by
  cases a with
  | enqueue ad => exact ⟨[.queued (m.queue.entryOf ad)], history_record _ _, counters_claim (m.queue.withAd ad)⟩
  | openSection => exact ⟨[], (List.append_nil _).symm, rfl⟩
  | closeSection i =>
    refine ⟨[], ?_, ?_⟩ <;> simp only [act, closeSection] <;> split_ifs
    · exact (List.append_nil _).symm
    · exact (List.append_nil _).symm
    · exact counters_claim _
    · rfl
  | beat b =>
    cases b with
    | moveTo time => exact ⟨[], (List.append_nil _).symm, rfl⟩
    | turn =>
      rcases beat_turn_cases h.flagged with ⟨-, hsame⟩ | ⟨d, ht⟩
      · rw [hsame]
        exact ⟨[], (List.append_nil _).symm, rfl⟩
      · exact ⟨_, ht.history, ht.counters⟩

/-- **The counters are the count of all that happened.** -/
theorem counters_play (acts : List Act) :
    (play reporter limit acts).queue.counters = (play reporter limit acts).history.foldl Note.onCounters ⟨0, 0, 0, 0⟩ := by
  induction acts using List.reverseRecOn with
  | nil => rfl
  | append_singleton acts a ih =>
    obtain ⟨notes, hhistory, hcounters⟩ := act_counters (play_inv reporter limit acts) a
    rw [play_snoc, hhistory, hcounters, List.foldl_append, ih]

theorem onCounters_le (n : Counters) (note : Note) : n.Le (Note.onCounters n note) := by
  cases note with
  | queued e => exact { Counters.Le.refl n with enqueued := Nat.le_succ _ }
  | started e => exact { Counters.Le.refl n with started := Nat.le_succ _ }
  | ended e o =>
    cases o with
    | recorded placement => exact { Counters.Le.refl n with succeeded := Nat.le_succ _ }
    | failed fault => exact { Counters.Le.refl n with failed := Nat.le_succ _ }
    | brokeDown => exact .refl n

theorem foldl_onCounters_le (n : Counters) (ns : List Note) : n.Le (ns.foldl Note.onCounters n) := by
  induction ns generalizing n with
  | nil => exact .refl n
  | cons note ns ih => exact (onCounters_le n note).trans (ih _)

variable (reporter limit) in
/-- Whatever is done later, no counter gets smaller. -/
theorem counters_le_play (acts more : List Act) :
    (play reporter limit acts).queue.counters.Le (play reporter limit (acts ++ more)).queue.counters := by
  obtain ⟨later, hlater⟩ := play_prefix reporter limit acts more
  rw [counters_play, counters_play, ← hlater, List.foldl_append]
  exact foldl_onCounters_le _ later

variable (reporter limit) in
/-- Every run is a play, and a longer run a longer one. -/
theorem run_append_eq_play (ops more : List Op) : ∃ acts bs, run reporter limit ops = play reporter limit acts ∧
    run reporter limit (ops ++ more) = play reporter limit (acts ++ bs) ∧
    acts.filter Act.isCommand = ops.filterMap Op.act? ∧ bs.filter Act.isCommand = more.filterMap Op.act? := by
  induction more using List.reverseRecOn with
  | nil =>
    obtain ⟨acts, hrun, hacts⟩ := run_eq_play reporter limit ops
    exact ⟨acts, [], hrun, by simpa using hrun, hacts, rfl⟩
  | append_singleton more o ih =>
    obtain ⟨acts, bs, hrun, hmore, hacts, hbs⟩ := ih
    obtain ⟨cs, hstep, hcs⟩ := step_eq_acts reporter limit (run reporter limit (ops ++ more)) o
    refine ⟨acts, bs ++ cs, hrun, ?_, hacts, ?_⟩
    · rw [← List.append_assoc, ← List.append_assoc, play_append, ← hmore, ← hstep]
      simp [run, List.foldl_append]
    · rw [List.filter_append, hbs, hcs, List.filterMap_append]
      cases o <;> rfl

/-- As many entries were queued as ads. -/
theorem length_queuedIn_play (acts : List Act) :
    (queuedIn (play reporter limit acts).history).length = (adsIn acts).length := by
  rw [(play_queued_mod acts).1, List.length_mapIdx]

/-- **The counters balance.** Every run is a play, and a longer run a longer play. After every play, that is at every moment
between two turns: as many ads were counted as were queued, and as many as there are entries handed over or waiting; as many
entries were counted as handed over as calls started, and each of these calls succeeded, failed, broke down, or is the one in
flight. The calls that have ended are those that started but for the one in flight; counted as succeeded are exactly those of
them that report success not after the limit, and as failed exactly those that report failure not after the limit or are not over
by then. And whatever is done later, no counter gets smaller. -/
theorem counters_balance (reporter : Reporter) (limit : Nat) :
    (∀ ops more, ∃ acts bs, run reporter limit ops = play reporter limit acts ∧
      run reporter limit (ops ++ more) = play reporter limit (acts ++ bs) ∧
      acts.filter Act.isCommand = ops.filterMap Op.act? ∧ bs.filter Act.isCommand = more.filterMap Op.act?) ∧
    ∀ acts, let m := play reporter limit acts
      let n := m.queue.counters
      let ended := endedIn m.history
      n.enqueued = (adsIn acts).length ∧
      n.enqueued = n.started + m.queue.pending ∧
      n.started = (handedIn m.history).length ∧
      n.started = n.succeeded + n.failed + m.calls.length + (ended.countP fun e => (reporter e).panics limit) ∧
      m.calls.length ≤ 1 ∧
      (ended ++ m.calls).Perm (handedIn m.history) ∧
      n.succeeded = (ended.countP fun e => (reporter e).succeeds limit) ∧
      n.failed = (ended.countP fun e => (reporter e).fails limit) ∧
      ∀ more, n.Le (play reporter limit (acts ++ more)).queue.counters := by
  refine ⟨run_append_eq_play reporter limit, ?_⟩
  intro acts m n ended
  have hfollows := (play_inv reporter limit acts).follows
  have hn : n = _ := (counters_play acts).trans (hfollows.counts ⟨0, 0, 0, 0⟩)
  simp only [Nat.zero_add] at hn
  have henqueued : n.enqueued = (queuedIn m.history).length := congrArg Counters.enqueued hn
  have hstarted : n.started = (handedIn m.history).length := congrArg Counters.started hn
  have hsucceeded : n.succeeded = ended.countP fun e => (reporter e).succeeds limit := congrArg Counters.succeeded hn
  have hfailed : n.failed = ended.countP fun e => (reporter e).fails limit := congrArg Counters.failed hn
  have hends : (ended ++ m.calls).Perm (handedIn m.history) := hfollows.ends
  have hwaits : (handedIn m.history).length + m.queue.pending = (queuedIn m.history).length := by
    have h := hfollows.perm.length_eq
    rwa [List.length_append] at h
  have hcalls : ended.length + m.calls.length = (handedIn m.history).length := by
    have h := hends.length_eq
    rwa [List.length_append] at h
  have hsum := length_eq_counts reporter limit ended
  refine ⟨henqueued.trans (length_queuedIn_play acts), ?_, hstarted, ?_, hfollows.calls_le (Nat.zero_le 1), hends,
    hsucceeded, hfailed, counters_le_play reporter limit acts⟩
  · omega
  · omega

end Machine

end AdConfirm.Dispatch
