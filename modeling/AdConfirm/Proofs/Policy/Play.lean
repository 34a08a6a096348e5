import AdConfirm.Policy.Machine
import AdConfirm.Proofs.Orderly
import AdConfirm.Proofs.Policy.Rebuild

/-!
A policy center on its own, moment by moment.

A play is a list of acts: a command is given, or there is a beat in good order. Every run of operations is a play with the
same commands in the same order (`run_eq_play`), so what holds after every play holds at every moment of every run.

- `run_quiet`: what leaves no task ready.
- `Effect`: all that an act can do, to the center and to its timers.
- `act_effect`: an act on a sound center does one of these.
- `apply_eq_ok_iff`, `reload_eq_ok_iff`: which commands succeed.
-/

namespace AdConfirm.Policy

open AdConfirm.Loop (Beat)

/-- what can be asked of a center; and what it is loaded from may change -/
inductive Command where
  | apply (s : OverrideSpec)
  | clear (path : String)
  | reload
  | surround (w : Surroundings)

/-- operations on a center in virtual time -/
inductive Op where
  | command (c : Command)
  | settle
  | advance (ms : Nat)

def Op.command? : Op → Option Command
  | .command c => some c
  | _ => none

/-- what can happen to a center in one piece -/
inductive Act where
  | command (c : Command)
  | beat (b : Beat)

def Act.command? : Act → Option Command
  | .command c => some c
  | .beat _ => none

namespace Machine

def command (m : Machine) : Command → Machine
  | .apply s => (m.apply s).1
  | .clear path => (m.clear path).1
  | .reload => m.reload.1
  | .surround w => { m with surroundings := w }

def step (m : Machine) : Op → Machine
  | .command c => m.command c
  | .settle => loop.settle m
  | .advance ms => loop.advance m ms

def run (m : Machine) (ops : List Op) : Machine := ops.foldl step m

def act (m : Machine) : Act → Machine
  | .command c => m.command c
  | .beat b => loop.orderlyBeat m b

def play (m : Machine) (acts : List Act) : Machine := acts.foldl act m

theorem play_append (m : Machine) (as bs : List Act) : m.play (as ++ bs) = (m.play as).play bs := List.foldl_append

theorem play_snoc (m : Machine) (as : List Act) (a : Act) : m.play (as ++ [a]) = (m.play as).act a := by
  simp [play]

theorem play_beats (m : Machine) (bs : List Beat) : m.play (bs.map .beat) = loop.orderlyBeats m bs := by
  rw [play, List.foldl_map]
  rfl

theorem filterMap_beats (bs : List Beat) : (bs.map Act.beat).filterMap Act.command? = [] := by
  simp [Act.command?]

/-- The turn of a timer neither makes another one ready nor touches the clock. -/
theorem loop_steady : loop.Steady where
  agenda_withAgenda _ _ := rfl
  ready_turn _ t := by cases t <;> rfl
  now_turn _ t := by cases t <;> rfl
  turns_eq _ := rfl

/-- an operation is a command, or the beats that it takes -/
theorem step_eq_play (m : Machine) (o : Op) :
    ∃ acts, m.step o = m.play acts ∧ acts.filterMap Act.command? = o.command?.toList := by
  cases o with
  | command c => exact ⟨[.command c], rfl, rfl⟩
  | settle =>
    obtain ⟨-, -, bs, hbs⟩ := loop_steady.settle_orderly m
    exact ⟨bs.map .beat, by rw [play_beats, ← hbs]; rfl, filterMap_beats bs⟩
  | advance ms =>
    obtain ⟨-, bs, hbs⟩ := loop_steady.advance_orderly m ms
    exact ⟨bs.map .beat, by rw [play_beats, ← hbs]; rfl, filterMap_beats bs⟩

theorem run_snoc (m : Machine) (ops : List Op) (o : Op) : m.run (ops ++ [o]) = (m.run ops).step o := by
  simp [run]

/-- **Every run is a play**, with the same commands in the same order. -/
theorem run_eq_play (m : Machine) (ops : List Op) :
    ∃ acts, m.run ops = m.play acts ∧ acts.filterMap Act.command? = ops.filterMap Op.command? := by
  induction ops using List.reverseRecOn with
  | nil => exact ⟨[], rfl, rfl⟩
  | append_singleton ops o ih =>
    obtain ⟨as, hrun, has⟩ := ih
    obtain ⟨bs, hstep, hbs⟩ := (m.run ops).step_eq_play o
    refine ⟨as ++ bs, ?_, ?_⟩
    · rw [run_snoc, hstep, play_append, hrun]
    · rw [List.filterMap_append, has, hbs, List.filterMap_append]
      cases o <;> rfl

/-- After settling, or letting time pass, no task is ready. -/
theorem run_quiet (m : Machine) (ops : List Op) (ms : Nat) :
    (m.run (ops ++ [.settle])).agenda.isQuiet = true ∧ (m.run (ops ++ [.advance ms])).agenda.isQuiet = true := by
  rw [run_snoc, run_snoc]
  exact ⟨List.isEmpty_iff.2 (loop_steady.settle_orderly (m.run ops)).1,
    List.isEmpty_iff.2 (loop_steady.advance_orderly (m.run ops) ms).1⟩

/-! ## What an act does -/

/-- the base that a reload would take over now -/
def Loads (m : Machine) (base : Snapshot) : Prop := ∃ x, m.center.source = some x ∧ load m.surroundings x = .ok base

/-- all that an act can do to the center and its timers -/
inductive Effect (m : Machine) : Act → Machine → Prop where
  | applied {s : OverrideSpec} {o : Override} {m' : Machine} (hs : s.Applies m.agenda.now)
      (ho : s.make? m.agenda.now = some o)
      (hc : { m.center with overrides := m.center.overrides.insert s.path o }.Rebuilt m.agenda.now m'.center)
      (ha : m'.agenda = s.timer?.elim m.agenda m.agenda.spawn) : Effect m (.command (.apply s)) m'
  | cleared {path : String} {m' : Machine}
      (hc : { m.center with overrides := m.center.overrides.erase path }.Rebuilt m.agenda.now m'.center)
      (ha : m'.agenda = m.agenda) : Effect m (.command (.clear path)) m'
  | reloaded {base : Snapshot} {m' : Machine} (hb : m.Loads base)
      (hc : { m.center with base }.Rebuilt m.agenda.now m'.center)
      (ha : m'.agenda = m.agenda) : Effect m (.command .reload) m'
  | slept {path : String} {ttl : Nat} {rest : List Expiry} {m' : Machine} (hr : m.agenda.ready = .set path ttl :: rest)
      (hc : m'.center = m.center)
      (ha : m'.agenda = { m.agenda with ready := rest }.sleepUntil (m.agenda.now + 1000 * ttl) (.due path)) :
      Effect m (.beat .turn) m'
  | expired {path : String} {rest : List Expiry} {m' : Machine} (hr : m.agenda.ready = .due path :: rest)
      (hc : m.center.Rebuilt m.agenda.now m'.center)
      (ha : m'.agenda = { m.agenda with ready := rest }) : Effect m (.beat .turn) m'
  | outrun {path : String} {rest : List Expiry} {m' : Machine} (hr : m.agenda.ready = .due path :: rest)
      (ho : ∀ o, m.center.overrides.find? path = some o → o.isLive m.agenda.now = true)
      (hc : m'.center = m.center)
      (ha : m'.agenda = { m.agenda with ready := rest }) : Effect m (.beat .turn) m'
  | passed {time : Nat} {m' : Machine} (hr : m.agenda.ready = []) (ht : m.agenda.now ≤ time)
      (hc : m'.center = m.center) (ha : m'.agenda = m.agenda.moveTo time) : Effect m (.beat (.moveTo time)) m'
  | idle {a : Act} {m' : Machine} (hs : ∀ s, a = .command (.apply s) → ¬ s.Applies m.agenda.now)
      (hp : ∀ path, a = .command (.clear path) → m.center.overrides.find? path = none)
      (hb : a = .command .reload → ∀ base, ¬ m.Loads base)
      (hc : m'.center = m.center) (ha : m'.agenda = m.agenda) : Effect m a m'

variable {m : Machine}

theorem apply_effect (h : m.center.Sound) (s : OverrideSpec) : m.Effect (.command (.apply s)) (m.apply s).1 := by
  by_cases hs : s.Applies m.agenda.now
  · obtain ⟨o, c, ho, hc, hrebuilt⟩ := Center.apply_eq_of_applies h hs
    refine .applied hs ho ?_ ?_
    · simp only [apply, hc]
      cases s.timer? <;> exact hrebuilt
    · simp only [apply, hc]
      cases s.timer? <;> rfl
  · obtain ⟨fault, hfault⟩ := Center.apply_eq_of_not_applies m.center hs
    refine .idle (fun s' hs' => ?_) (by simp) (by simp) ?_ ?_
    · cases hs'
      exact hs
    · simp [apply, hfault, note]
    · simp [apply, hfault, note]

theorem apply_eq_ok_iff (h : m.center.Sound) {s : OverrideSpec} : (m.apply s).2 = .ok () ↔ s.Applies m.agenda.now := by
  by_cases hs : s.Applies m.agenda.now
  · obtain ⟨o, c, -, hc, -⟩ := Center.apply_eq_of_applies h hs
    simp only [apply, hc, hs, iff_true]
    cases s.timer? <;> rfl
  · obtain ⟨fault, hfault⟩ := Center.apply_eq_of_not_applies m.center hs
    simp [apply, hfault, hs]

theorem clear_effect (h : m.center.Sound) (path : String) : m.Effect (.command (.clear path)) (m.clear path).1 := by
  cases ho : m.center.overrides.find? path with
  | none =>
    have hc := Center.clear_eq_of_not_held m.agenda.now ho
    refine .idle (by simp) (fun path' hp => ?_) (by simp) ?_ ?_
    · cases hp
      exact ho
    · simp [clear, hc]
    · simp [clear]
  | some o =>
    obtain ⟨c, hc, hrebuilt⟩ := Center.clear_eq_of_held h m.agenda.now ho
    refine .cleared ?_ rfl
    simp only [clear, hc]
    exact hrebuilt

theorem reload_effect (h : m.center.Sound) : m.Effect (.command .reload) m.reload.1 := by
  by_cases hload : ∃ base, m.Loads base
  · obtain ⟨base, x, hx, hbase⟩ := hload
    exact .reloaded ⟨x, hx, hbase⟩ (Center.reload_eq_of_load h m.agenda.now hx hbase).2 rfl
  · have hnone : ∀ x base, m.center.source = some x → load m.surroundings x ≠ .ok base :=
      fun x base hx hbase => hload ⟨base, x, hx, hbase⟩
    exact .idle (by simp) (by simp) (fun _ base hb => hload ⟨base, hb⟩)
      (Center.reload_eq_of_not_load m.agenda.now hnone).1 rfl

theorem reload_eq_ok_iff (h : m.center.Sound) : m.reload.2 = .ok () ↔ ∃ base, m.Loads base := by
  constructor
  · intro hok
    by_contra hload
    have hnone : ∀ x base, m.center.source = some x → load m.surroundings x ≠ .ok base :=
      fun x base hx hbase => hload ⟨base, x, hx, hbase⟩
    exact (Center.reload_eq_of_not_load m.agenda.now hnone).2 hok
  · rintro ⟨base, x, hx, hbase⟩
    exact (Center.reload_eq_of_load h m.agenda.now hx hbase).1

theorem act_turn {t : Expiry} {rest : List Expiry} (hr : m.agenda.ready = t :: rest) :
    m.act (.beat .turn) = turn { m with agenda := { m.agenda with ready := rest } } t := by
  simp [act, Loop.orderlyBeat, Loop.beat, Loop.next?, loop, hr]

theorem act_turn_idle (hr : m.agenda.ready = []) : m.act (.beat .turn) = m := by
  simp [act, Loop.orderlyBeat, Loop.beat, Loop.next?, loop, hr]

theorem turn_effect (h : m.center.Sound) : m.Effect (.beat .turn) (m.act (.beat .turn)) := by
  cases hr : m.agenda.ready with
  | nil => exact .idle (by simp) (by simp) (by simp) (by rw [act_turn_idle hr]) (by rw [act_turn_idle hr])
  | cons t rest =>
    rw [act_turn hr]
    cases t with
    | set path ttl => exact .slept hr rfl rfl
    | due path =>
      rcases Center.expire_cases h m.agenda.now path with ⟨hsame, hlive⟩ | hrebuilt
      · exact .outrun hr hlive hsame rfl
      · exact .expired hr hrebuilt rfl

/-- An act on a sound center does one of these things. -/
theorem act_effect (h : m.center.Sound) (a : Act) : m.Effect a (m.act a) := by
  cases a with
  | command c =>
    cases c with
    | apply s => exact apply_effect h s
    | clear path => exact clear_effect h path
    | reload => exact reload_effect h
    | surround w => exact .idle (by simp) (by simp) (by simp) rfl rfl
  | beat b =>
    cases b with
    | turn => exact turn_effect h
    | moveTo time =>
      by_cases hgo : m.agenda.isQuiet = true ∧ m.agenda.now ≤ time
      · have hact : m.act (.beat (.moveTo time)) = loop.moveTo m time := if_pos hgo
        rw [hact]
        exact .passed (List.isEmpty_iff.1 hgo.1) hgo.2 rfl rfl
      · have hact : m.act (.beat (.moveTo time)) = m := if_neg hgo
        rw [hact]
        exact .idle (by simp) (by simp) (by simp) rfl rfl

end Machine

end AdConfirm.Policy
