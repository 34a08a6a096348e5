import AdConfirm.Dispatch.Machine
import AdConfirm.Proofs.Agenda
import AdConfirm.Proofs.Dispatch.Turn

/-!
A queue on its own, moment by moment.

A play is a list of acts: an ad is queued, a section is opened or closed, the first ready task takes its turn, or the clock
is set. Every run of operations is a play with the same commands in the same order (`run_eq_play`), so what holds after
every play holds at every moment of every run, between any two turns of the tasks included.

- `Acted`: what an act adds to the history. Only an enqueue queues, and only a turn starts calls, with no section open.
- `Inv`: the flag stands for the drain, the counter of sections for the open guards, and the history so far leads to the
  entries that wait and the call that the drain waits for.
- `act_inv`, `play_inv`: an act keeps it, so it holds after every play.
-/

namespace AdConfirm.Dispatch

open AdConfirm.Loop (Beat)

/-- what can happen to a queue in one piece -/
inductive Act where
  | enqueue (ad : AdRecord)
  | openSection
  | closeSection (i : Nat)
  | beat (b : Beat)
  deriving DecidableEq

/-- whether an act comes from outside -/
def Act.isCommand : Act → Bool
  | .beat _ => false
  | _ => true

def Act.ad? : Act → Option AdRecord
  | .enqueue ad => some ad
  | _ => none

/-- the act of an operation that takes no time -/
def Op.act? : Op → Option Act
  | .enqueue ad => some (.enqueue ad)
  | .openSection => some .openSection
  | .closeSection i => some (.closeSection i)
  | .settle => none
  | .advance _ => none

/-- the entries queued, the oldest first -/
def queuedIn (ns : List Note) : List Entry :=
  ns.filterMap fun n => match n with
    | .queued e => some e
    | _ => none

theorem queuedIn_append (ns ms : List Note) : queuedIn (ns ++ ms) = queuedIn ns ++ queuedIn ms :=
  List.filterMap_append

/-- the queue with an ad in it, before a drain is claimed -/
def Queue.withAd (q : Queue) (ad : AdRecord) : Queue :=
  { q with
    stack := q.stack.push (q.entryOf ad)
    nextSeq := q.nextSeq + 1
    counters := { q.counters with enqueued := q.counters.enqueued + 1 } }

namespace Machine

variable (reporter : Reporter) (limit : Nat)

def act (m : Machine) : Act → Machine
  | .enqueue ad => m.enqueue ad
  | .openSection => m.openSection
  | .closeSection i => m.closeSection i
  | .beat b => (loop reporter limit).beat m b

def play (acts : List Act) : Machine := acts.foldl (act reporter limit) empty

theorem play_append (as bs : List Act) :
    play reporter limit (as ++ bs) = bs.foldl (act reporter limit) (play reporter limit as) := by
  simp [play, List.foldl_append]

theorem play_snoc (as : List Act) (a : Act) :
    play reporter limit (as ++ [a]) = act reporter limit (play reporter limit as) a := by
  simp [play_append]

theorem foldl_beats (m : Machine) (bs : List Beat) :
    (bs.map Act.beat).foldl (act reporter limit) m = (loop reporter limit).beats m bs := by
  rw [List.foldl_map]
  rfl

theorem filter_beats (bs : List Beat) : (bs.map Act.beat).filter Act.isCommand = [] := by
  simp [List.filter_eq_nil_iff, Act.isCommand]

/-- an operation is a command, or the beats that it takes -/
theorem step_eq_acts (m : Machine) (o : Op) :
    ∃ acts : List Act, m.step reporter limit o = acts.foldl (act reporter limit) m ∧
      acts.filter Act.isCommand = o.act?.toList := by
  cases o with
  | enqueue ad => exact ⟨[.enqueue ad], rfl, rfl⟩
  | openSection => exact ⟨[.openSection], rfl, rfl⟩
  | closeSection i => exact ⟨[.closeSection i], rfl, rfl⟩
  | settle =>
    obtain ⟨bs, hbs⟩ := (loop reporter limit).settle_beats m
    exact ⟨bs.map .beat, by rw [foldl_beats, ← hbs]; rfl, filter_beats bs⟩
  | advance ms =>
    obtain ⟨bs, hbs⟩ := (loop reporter limit).advance_beats m ms
    exact ⟨bs.map .beat, by rw [foldl_beats, ← hbs]; rfl, filter_beats bs⟩

/-- **Every run is a play**, with the same commands in the same order. -/
theorem run_eq_play (ops : List Op) : ∃ acts, run reporter limit ops = play reporter limit acts ∧
    acts.filter Act.isCommand = ops.filterMap Op.act? := by
  induction ops using List.reverseRecOn with
  | nil => exact ⟨[], rfl, rfl⟩
  | append_singleton ops o ih =>
    obtain ⟨as, hrun, has⟩ := ih
    obtain ⟨bs, hstep, hbs⟩ := step_eq_acts reporter limit (run reporter limit ops) o
    refine ⟨as ++ bs, ?_, ?_⟩
    · rw [play_append, ← hrun, ← hstep]
      simp [run, List.foldl_append]
    · rw [List.filter_append, has, hbs, List.filterMap_append]
      cases o <;> rfl

/-! ## What is seen of a machine -/

/-- what happened so far, the oldest first -/
def history (m : Machine) : List Note := (m.journal.map (·.2)).reverse

/-- the drain tasks that are spawned and have not ended -/
def drainTasks (m : Machine) : List Drain := m.agenda.tasks

/-- the calls in flight: those that a drain waits for -/
def calls (m : Machine) : List Entry := callsOf m.drainTasks

@[simp] theorem history_record (m : Machine) (notes : List Note) : (m.record notes).history = m.history ++ notes := by
  simp [history, record, Function.comp_def]

@[simp] theorem history_adopt (m : Machine) (q : Queue × Bool) : (m.adopt q).history = m.history := rfl

/-! ## The invariant -/

structure Inv (m : Machine) : Prop where
  flagged : Flagged reporter limit m.queue m.drainTasks
  sections : m.queue.sections = m.guards.count true
  follows : Follows reporter limit ⟨[], []⟩ m.history ⟨m.queue.stack.entries, m.calls⟩

variable {reporter limit}

theorem inv_empty : Inv reporter limit empty := ⟨Or.inl ⟨rfl, rfl⟩, rfl, .done _⟩

/-- adopting a queue that may claim a drain: the flag goes on standing for the drain, and no call starts -/
theorem adopt_claim {m : Machine} {q : Queue} (hq : q.dispatching = m.queue.dispatching)
    (h : Flagged reporter limit m.queue m.drainTasks) :
    Flagged reporter limit (m.adopt q.claim).queue (m.adopt q.claim).drainTasks ∧
      (m.adopt q.claim).calls = m.calls := by
  unfold Queue.claim
  split_ifs with hw
  · have hd : m.queue.dispatching = false := by
      simp only [Queue.wantsDrain, Bool.and_eq_true, Bool.not_eq_true'] at hw
      exact hq ▸ hw.1.1
    have ht : m.drainTasks = [] := by
      rcases h with ⟨ht, -⟩ | ⟨d, -, hd', -⟩
      · exact ht
      · rw [hd] at hd'; exact absurd hd' (by decide)
    have ht' : (m.agenda.spawn .start).tasks = [.start] := by
      have := m.agenda.tasks_spawn .start
      rw [show m.agenda.tasks = [] from ht] at this
      exact List.perm_singleton.1 this
    refine ⟨Or.inr ⟨.start, ht', rfl, trivial⟩, ?_⟩
    simp only [calls, drainTasks, adopt, if_true, ht', show m.agenda.tasks = [] from ht]
    rfl
  · refine ⟨?_, rfl⟩
    rcases h with ⟨ht, hd⟩ | ⟨d, ht, hd, ha⟩
    · exact Or.inl ⟨ht, hq.trans hd⟩
    · exact Or.inr ⟨d, ht, hq.trans hd, ha⟩

theorem stack_claim (q : Queue) : q.claim.1.stack = q.stack := by
  unfold Queue.claim; split_ifs <;> rfl

theorem sections_claim (q : Queue) : q.claim.1.sections = q.sections := by
  unfold Queue.claim; split_ifs <;> rfl

theorem nextSeq_claim (q : Queue) : q.claim.1.nextSeq = q.nextSeq := by
  unfold Queue.claim; split_ifs <;> rfl

theorem enqueue_inv {m : Machine} (h : Inv reporter limit m) (ad : AdRecord) : Inv reporter limit (m.enqueue ad) := by
  obtain ⟨hf, hc⟩ := adopt_claim (q := m.queue.withAd ad) rfl h.flagged
  refine ⟨hf, ?_, ?_⟩
  · exact (sections_claim _).trans h.sections
  · have hq : (m.enqueue ad).queue.stack.entries = m.queue.entryOf ad :: m.queue.stack.entries :=
      congrArg Stack.entries (stack_claim _)
    have hm : (m.enqueue ad).calls = m.calls := hc
    rw [hq, hm, enqueue, history_record, history_adopt]
    exact h.follows.append (.queued _ (.done _))

theorem openSection_inv {m : Machine} (h : Inv reporter limit m) : Inv reporter limit m.openSection := by
  refine ⟨h.flagged, ?_, h.follows⟩
  simp [openSection, Queue.openSection, h.sections]

theorem count_set_false {guards : List Bool} {i : Nat} (hi : guards[i]? = some true) :
    (guards.set i false).count true = guards.count true - 1 := by
  obtain ⟨hlt, hget⟩ := List.getElem?_eq_some_iff.1 hi
  rw [List.count_set hlt, hget]
  simp

theorem closeSection_inv {m : Machine} (h : Inv reporter limit m) (i : Nat) :
    Inv reporter limit (m.closeSection i) := by
  unfold closeSection
  split_ifs with hi
  · set m₁ : Machine := { m with guards := m.guards.set i false }
    obtain ⟨hf, hc⟩ := adopt_claim (m := m₁) (q := { m.queue with sections := m.queue.sections - 1 }) rfl h.flagged
    refine ⟨hf, ?_, ?_⟩
    · exact (sections_claim _).trans (by rw [h.sections]; exact (count_set_false hi).symm)
    · have hq : (m₁.adopt m.queue.closeSection).queue.stack.entries = m.queue.stack.entries :=
        congrArg Stack.entries (stack_claim _)
      have hm : (m₁.adopt m.queue.closeSection).calls = m.calls := hc
      rw [hq, hm]
      exact h.follows
  · exact h

theorem drainTasks_moveTo {m : Machine} (h : Flagged reporter limit m.queue m.drainTasks) (time : Nat) :
    (m.agenda.moveTo time).tasks = m.drainTasks := by
  have hp := m.agenda.tasks_moveTo time
  rcases h with ⟨ht, -⟩ | ⟨d, ht, -, -⟩
  · rw [show m.agenda.tasks = [] from ht] at hp
    rw [ht]; exact List.perm_nil.1 hp
  · rw [show m.agenda.tasks = [d] from ht] at hp
    rw [ht]; exact List.perm_singleton.1 hp

theorem moveTo_inv {m : Machine} (h : Inv reporter limit m) (time : Nat) :
    Inv reporter limit ((loop reporter limit).moveTo m time) := by
  have ht : ((loop reporter limit).moveTo m time).drainTasks = m.drainTasks := drainTasks_moveTo h.flagged time
  refine ⟨?_, h.sections, ?_⟩
  · rw [ht]; exact h.flagged
  · rw [show ((loop reporter limit).moveTo m time).calls = m.calls by simp only [calls, ht]]
    exact h.follows

/-- what a turn of the first ready task does: nothing, or what a turn of the one drain does to the queue -/
structure Turned (reporter : Reporter) (limit : Nat) (m : Machine) (d : Drain) (m' : Machine) : Prop where
  tasks : m.drainTasks = [d]
  dispatching : m.queue.dispatching = true
  awaits : d.Awaits reporter limit
  queue : m'.queue = (m.queue.turn reporter limit d).queue
  history : m'.history = m.history ++ (m.queue.turn reporter limit d).notes
  left : m'.drainTasks = (m.queue.turn reporter limit d).left
  guards : m'.guards = m.guards

theorem beat_turn_cases {m : Machine} (h : Flagged reporter limit m.queue m.drainTasks) :
    (m.agenda.ready = [] ∧ m.act reporter limit (.beat .turn) = m) ∨
      ∃ d, Turned reporter limit m d (m.act reporter limit (.beat .turn)) := by
  cases hr : m.agenda.ready with
  | nil => exact Or.inl ⟨rfl, by simp [act, Loop.beat, Loop.next?, loop, hr]⟩
  | cons d rest =>
    right
    obtain ⟨ht, hd, ha, hs⟩ : m.drainTasks = [d] ∧ m.queue.dispatching = true ∧ d.Awaits reporter limit ∧
        rest = [] ∧ m.agenda.asleep = [] := by
      rcases h with ⟨ht, -⟩ | ⟨d', ht, hd, ha⟩
      · simp [drainTasks, Agenda.tasks, hr] at ht
      · simp only [drainTasks, Agenda.tasks, hr, List.cons_append, List.cons.injEq, List.append_eq_nil_iff,
          List.map_eq_nil_iff] at ht
        obtain ⟨rfl, hrest, hasleep⟩ := ht
        exact ⟨by simp [drainTasks, Agenda.tasks, hr, hrest, hasleep], hd, ha, hrest, hasleep⟩
    obtain ⟨rfl, hasleep⟩ := hs
    have hact : m.act reporter limit (.beat .turn) =
        turn reporter limit { m with agenda := { m.agenda with ready := [] } } d := by
      simp [act, Loop.beat, Loop.next?, loop, hr]
    refine ⟨d, ht, hd, ha, ?_, ?_, ?_, ?_⟩ <;> rw [hact] <;> simp only [turn]
    · split <;> rfl
    · split <;> simp [history, record, Function.comp_def]
    · split
      · next hn => simp [drainTasks, Agenda.tasks, DrainTurn.left, record, hn, hasleep]
      · next hn => simp [drainTasks, Agenda.tasks, DrainTurn.left, record, Agenda.sleepUntil, hn, hasleep]
    · split <;> rfl

theorem Turned.inv {m m' : Machine} {d : Drain} (h : Inv reporter limit m) (t : Turned reporter limit m d m') :
    Inv reporter limit m' := by
  refine ⟨?_, ?_, ?_⟩
  · rw [t.queue, t.left]; exact turn_flagged d t.dispatching
  · rw [t.queue, t.guards, (turn_frame _ d).1]; exact h.sections
  · have hc : m.calls = callsOf [d] := by rw [calls, t.tasks]
    rw [t.queue, t.history, calls, t.left]
    exact (hc ▸ h.follows).append (turn_follows t.awaits)

theorem act_inv {m : Machine} (h : Inv reporter limit m) (a : Act) : Inv reporter limit (m.act reporter limit a) := by
  cases a with
  | enqueue ad => exact enqueue_inv h ad
  | openSection => exact openSection_inv h
  | closeSection i => exact closeSection_inv h i
  | beat b =>
    cases b with
    | turn =>
      rcases beat_turn_cases h.flagged with ⟨-, he⟩ | ⟨d, ht⟩
      · rw [he]; exact h
      · exact ht.inv h
    | moveTo time => exact moveTo_inv h time

variable (reporter limit) in
theorem play_inv (acts : List Act) : Inv reporter limit (play reporter limit acts) := by
  induction acts using List.reverseRecOn with
  | nil => exact inv_empty
  | append_singleton acts a ih => rw [play_snoc]; exact act_inv ih a

/-! ## What an act adds to the history -/

structure Acted (m : Machine) (a : Act) (m' : Machine) (notes : List Note) : Prop where
  history : m'.history = m.history ++ notes
  queued : queuedIn notes = a.ad?.toList.map m.queue.entryOf
  nextSeq : m'.queue.nextSeq = if a.ad?.isSome then m.queue.nextSeq + 1 else m.queue.nextSeq
  started : ∀ e, .started e ∈ notes → a = .beat .turn ∧ true ∉ m.guards ∧ m'.guards = m.guards

theorem Acted.silent {m m' : Machine} {a : Act} (ha : a.ad? = none) (hh : m'.history = m.history)
    (hq : m'.queue.nextSeq = m.queue.nextSeq) : Acted m a m' [] :=
  ⟨by simpa using hh, by simp [ha, queuedIn], by simpa [ha] using hq, by simp⟩

theorem queuedIn_drains {q : Queue} {t : DrainTurn} (h : Drains reporter limit q t) :
    queuedIn t.notes = [] := by
  induction h with
  | held | emptied | broke | waits => rfl
  | goesOn q e rest o t hs hq hc ho h ih => exact ih

theorem queuedIn_turn (q : Queue) (d : Drain) : queuedIn (q.turn reporter limit d).notes = [] := by
  rcases turn_cases reporter limit q d with ⟨-, h⟩ | ⟨e, -, h⟩ | ⟨e, o, t, -, -, ht, h⟩
  · exact queuedIn_drains h
  · rw [h]; rfl
  · rw [h]; exact (queuedIn_drains ht :)

theorem Turned.acted {m m' : Machine} {d : Drain} (h : Inv reporter limit m) (t : Turned reporter limit m d m') :
    Acted m (.beat .turn) m' (m.queue.turn reporter limit d).notes := by
  refine ⟨t.history, by rw [queuedIn_turn]; rfl, ?_, ?_⟩
  · rw [t.queue]
    exact (turn_frame _ d).2
  · intro e he
    have hs := turn_closed he
    rw [h.sections, List.count_eq_zero] at hs
    exact ⟨rfl, hs, t.guards⟩

theorem act_acted {m : Machine} (h : Inv reporter limit m) (a : Act) :
    ∃ notes, Acted m a (m.act reporter limit a) notes := by
  cases a with
  | enqueue ad =>
    refine ⟨[.queued (m.queue.entryOf ad)], history_record _ _, rfl, ?_, by simp⟩
    exact nextSeq_claim (m.queue.withAd ad)
  | openSection => exact ⟨[], .silent rfl rfl rfl⟩
  | closeSection i =>
    refine ⟨[], .silent rfl ?_ ?_⟩ <;> simp only [act, closeSection] <;> split_ifs
    · rfl
    · rfl
    · exact nextSeq_claim _
    · rfl
  | beat b =>
    cases b with
    | moveTo time => exact ⟨[], .silent rfl rfl rfl⟩
    | turn =>
      rcases beat_turn_cases h.flagged with ⟨-, he⟩ | ⟨d, ht⟩
      · rw [he]; exact ⟨[], .silent rfl rfl rfl⟩
      · exact ⟨_, ht.acted h⟩

end Machine

end AdConfirm.Dispatch
