import AdConfirm.Proofs.Orderly
import AdConfirm.Proofs.Pipeline.Frame

/-!
The tasks of a pipeline come to rest.

A turn can make other tasks ready: an ingestion spawns a drain, an event from the bus an ingestion, and the listener goes to the
end of the line when it has taken as many deliveries as a turn may. But every delivery lowers the backlog for good, so the
number of turns to come falls with every turn, and the time stands still while it does.

- `receive_backlog`: a delivery lowers the backlog.
- `Grows`: the turns to come are at most so many more.
- `loop_settles`: so the loop settles, and leaves no task ready.
-/

namespace AdConfirm

namespace Bus

variable {α : Type} {b : Bus α} {i : Nat}

/-- A delivery of an event, or the news that some were missed, lowers the backlog. -/
theorem receive_backlog (h : (b.receive i).2 ≠ .nothing) (h' : (b.receive i).2 ≠ .left) :
    (b.receive i).1.backlog i < b.backlog i := by
  unfold receive at h h' ⊢
  split at h
  · next position hr =>
    have hi : i < b.readers.length := (List.getElem?_eq_some_iff.1 hr).1
    split_ifs at h ⊢ with hlag
    · simp only [backlog, hr, List.getElem?_set_self hi]
      unfold oldest at hlag ⊢
      omega
    · cases hsent : b.sent[position]? with
      | none => simp [hsent] at h
      | some a =>
        have hp : position < b.sent.length := (List.getElem?_eq_some_iff.1 hsent).1
        simp only [backlog, hr, List.getElem?_set_self hi]
        omega
  · simp at h'

end Bus

namespace Pipeline

open AdConfirm.Tab (Ticket Waiting)

variable {x : Setup} {p q r : Pipeline}

/-- how many turns are to come at most -/
def load (p : Pipeline) : Nat := (p.agenda.ready.map (turnsOf p)).sum

theorem turns_eq (x : Setup) (p : Pipeline) : (loop x).turns p = p.load := by
  rw [load, List.sum_eq_foldr, List.foldr_map]
  rfl

theorem turnsOf_le (h : q.bus.backlog listener ≤ p.bus.backlog listener) (t : Task) : turnsOf q t ≤ turnsOf p t := by
  cases t with
  | listen =>
    simp only [turnsOf]
    omega
  | _ => exact le_rfl

/-- the time is the same, nothing came to the backlog, and there are at most so many turns more to come -/
structure Grows (n : Nat) (p q : Pipeline) : Prop where
  now : q.agenda.now = p.agenda.now
  backlog : q.bus.backlog listener ≤ p.bus.backlog listener
  load : q.load ≤ p.load + n

namespace Grows

variable {m n : Nat}

theorem trans (h : Grows m p q) (k : Grows n q r) : Grows (m + n) p r where
  now := k.now.trans h.now
  backlog := k.backlog.trans h.backlog
  load := by
    have hload := h.load
    have kload := k.load
    omega

/-- New tasks are new turns to come. -/
theorem of_ready (ts : List Task) (ready : q.agenda.ready = p.agenda.ready ++ ts) (now : q.agenda.now = p.agenda.now)
    (backlog : q.bus.backlog listener ≤ p.bus.backlog listener) : Grows (ts.map (turnsOf p)).sum p q where
  now := now
  backlog := backlog
  load := by
    rw [Pipeline.load, Pipeline.load, ready, ← List.sum_append, ← List.map_append]
    exact List.sum_le_sum fun t _ => turnsOf_le backlog t

theorem of_agenda (agenda : q.agenda = p.agenda) (backlog : q.bus.backlog listener ≤ p.bus.backlog listener) :
    Grows 0 p q :=
  of_ready [] (by rw [agenda, List.append_nil]) (by rw [agenda]) backlog

/-- A task that begins to wait is no turn to come. -/
theorem asleep (h : Grows n p q) {a : Agenda Task} (ready : a.ready = q.agenda.ready) (now : a.now = q.agenda.now) :
    Grows n p { q with agenda := a } :=
  h.trans (n := 0) (of_ready [] (by rw [List.append_nil]; exact ready) now le_rfl)

theorem sleepUntil (h : Grows n p q) (due : Nat) (t : Task) : Grows n p { q with agenda := q.agenda.sleepUntil due t } :=
  h.asleep rfl rfl

theorem of_frame {ts : List Task} (h : Frame p q ts) : Grows (ts.map (turnsOf p)).sum p q :=
  of_ready ts (by rw [h.agenda]) (by rw [h.agenda]) (by rw [h.bus])

theorem of_claim {isClaimed : Bool} (h : Frame p q (claimed isClaimed)) : Grows 1 p q := by
  have hgrows := of_frame h
  cases isClaimed with
  | true => exact hgrows
  | false => exact ⟨hgrows.now, hgrows.backlog, hgrows.load.trans (Nat.le_succ _)⟩

theorem spawn (p : Pipeline) (t : Task) : Grows (turnsOf p t) p (p.spawn t) :=
  of_ready [t] rfl rfl le_rfl

end Grows

theorem finish_grows (p : Pipeline) (t : Ticket) (ads : AdMap) : Grows 1 p (finish x p t ads) := by
  obtain ⟨isClaimed, hframe⟩ := finish_claims x p t ads
  exact .of_claim hframe

theorem conclude_grows (p : Pipeline) (t : Ticket) (a : Arrival) : Grows 1 p (conclude x p t a) := by
  have harrive : Grows 0 p (arrive x p t a) := by
    unfold arrive
    simp only
    split <;> exact .of_agenda rfl le_rfl
  rw [conclude_eq]
  exact harrive.trans (finish_grows _ t _)

theorem proceed_grows (p : Pipeline) (t : Ticket) (s : Stage) : Grows 1 p (proceed x p t s).1 := by
  cases s with
  | begun isAdmitted =>
    cases isAdmitted with
    | false => exact finish_grows p t Table.empty
    | true =>
      have hask : Grows 0 p (ask x p t) := .of_agenda rfl le_rfl
      simp only [proceed]
      split
      · exact hask.trans (conclude_grows (ask x p t) t _)
      · exact ⟨hask.now, hask.backlog, hask.load.trans (Nat.le_succ _)⟩
  | fetching a => exact conclude_grows p t a

theorem follow_grows (p : Pipeline) (e : TabEvent) : Grows 2 p (follow x p e) := by
  have hreset (tab : String) : Grows 2 p (p.reset tab) := by
    have hgrows := Grows.of_frame (p.reset_frame tab)
    exact ⟨hgrows.now, hgrows.backlog, hgrows.load.trans (Nat.le_add_right _ 2)⟩
  cases e with
  | loaded tab url trigger =>
    have hbegin : Grows 0 p (Pipeline.begin x p tab url trigger).1 := by
      unfold Pipeline.begin
      simp only
      split <;> exact .of_agenda rfl le_rfl
    exact hbegin.trans (.spawn _ (.ingest _ _))
  | navigated tab => exact hreset tab
  | closed tab => exact hreset tab

/-- Every delivery that is followed makes at most two turns to come, and one less in the backlog. -/
theorem listen_grows (n : Nat) (p : Pipeline) :
    ∃ j, Grows (2 * j) p (listen x n p).1 ∧ (listen x n p).1.bus.backlog listener + j ≤ p.bus.backlog listener ∧
      ((listen x n p).2 = true → j = n) := by
  induction n generalizing p with
  | zero => exact ⟨0, .of_agenda rfl le_rfl, le_rfl, fun _ => rfl⟩
  | succ n ih =>
    have hbacklog := p.bus.receive_backlog (i := listener)
    unfold listen
    split
    · next bus e hr =>
      rw [hr] at hbacklog
      have hlt : bus.backlog listener < p.bus.backlog listener := hbacklog (by simp) (by simp)
      have hbus : Grows 0 p { p with bus } := .of_agenda rfl hlt.le
      have hfollow := follow_grows (x := x) { p with bus } e
      obtain ⟨j, hgrows, hdown, hall⟩ := ih (follow x { p with bus } e)
      have hle : (follow x { p with bus } e).bus.backlog listener ≤ bus.backlog listener := hfollow.backlog
      refine ⟨j + 1, ?_, by omega, fun h => by rw [hall h]⟩
      have htrans := (hbus.trans hfollow).trans hgrows
      exact ⟨htrans.now, htrans.backlog, htrans.load.trans (by omega)⟩
    · next bus missed hr =>
      rw [hr] at hbacklog
      have hlt : bus.backlog listener < p.bus.backlog listener := hbacklog (by simp) (by simp)
      have hbus : Grows 0 p (Pipeline.note { p with bus } (.lagged missed)) := .of_agenda rfl hlt.le
      obtain ⟨j, hgrows, hdown, hall⟩ := ih (Pipeline.note { p with bus } (.lagged missed))
      have hle : (Pipeline.note { p with bus } (.lagged missed)).bus.backlog listener = bus.backlog listener := rfl
      refine ⟨j + 1, ?_, by omega, fun h => by rw [hall h]⟩
      have htrans := hbus.trans hgrows
      exact ⟨htrans.now, htrans.backlog, htrans.load.trans (by omega)⟩
    · exact ⟨0, .of_agenda rfl le_rfl, le_rfl, by simp⟩
    · exact ⟨0, .of_agenda rfl le_rfl, le_rfl, by simp⟩

/-- A turn leaves fewer turns to come than it was counted for. -/
theorem turn_load (x : Setup) (p : Pipeline) (t : Task) :
    (turn x p t).agenda.now = p.agenda.now ∧ (turn x p t).load < p.load + turnsOf p t := by
  have hdone : ∀ {q}, Grows 0 p q → 0 < turnsOf p t → q.agenda.now = p.agenda.now ∧ q.load < p.load + turnsOf p t := by
    intro q hq hpos
    exact ⟨hq.now, lt_of_le_of_lt hq.load (by omega)⟩
  cases t with
  | drain d =>
    refine hdone ?_ Nat.one_pos
    have hnotes : Grows 0 p (p.drain x d) := .of_frame (drain_frame x p d)
    unfold drain at hnotes
    simp only [turn]
    split
    · exact hnotes
    · exact hnotes.sleepUntil _ _
  | timer e =>
    cases e with
    | set path ttl => exact hdone (Grows.sleepUntil (.of_agenda rfl le_rfl) _ _) Nat.one_pos
    | due path => exact hdone (.of_agenda rfl le_rfl) Nat.one_pos
  | ingest t s =>
    have hproceed := proceed_grows (x := x) p t s
    simp only [turn, turnsOf]
    split
    · next q hq =>
      rw [hq] at hproceed
      exact ⟨hproceed.now, lt_of_le_of_lt hproceed.load (by omega)⟩
    · next q time s' hq =>
      rw [hq] at hproceed
      have hsleep := hproceed.sleepUntil (q.agenda.now + time) (.ingest t s')
      exact ⟨hsleep.now, lt_of_le_of_lt hsleep.load (by omega)⟩
  | listen =>
    obtain ⟨j, hgrows, hdown, hall⟩ := listen_grows (x := x) deliveriesPerTurn p
    simp only [turn, turnsOf]
    generalize listen x deliveriesPerTurn p = c at hgrows hdown hall
    obtain ⟨q, tookAll⟩ := c
    have hload : q.load ≤ p.load + 2 * j := hgrows.load
    simp only at hdown hall ⊢
    split
    · next htook =>
      have hj : j = 128 := hall htook
      have hspawn := Grows.spawn q .listen
      have hload' : (q.spawn .listen).load ≤ q.load + (1 + 3 * q.bus.backlog listener) := hspawn.load
      exact ⟨hspawn.now.trans hgrows.now, by omega⟩
    · have hsleep : Grows 0 q { q with agenda := q.agenda.sleep .listen } := (Grows.of_agenda rfl le_rfl).asleep rfl rfl
      have hload' := hsleep.load
      exact ⟨hsleep.now.trans hgrows.now, lt_of_le_of_lt hload' (by omega)⟩

/-- **Settling leaves no task ready**: every turn lowers the number of turns to come, and leaves the clock alone. -/
theorem loop_settles (x : Setup) : (loop x).Settles where
  agenda_withAgenda _ _ := rfl
  now_turn p t := (turn_load x p t).1
  turns_lt p p' h := by
    unfold Loop.next? at h
    split at h
    · cases h
    · next t rest hready =>
      obtain rfl := Option.some.inj h
      have hload : p.load = turnsOf p t + Pipeline.load { p with agenda := { p.agenda with ready := rest } } := by
        have hready' : p.agenda.ready = t :: rest := hready
        simp only [load, hready', List.map_cons, List.sum_cons]
        rfl
      rw [turns_eq, turns_eq, hload]
      have hturn := (turn_load x { p with agenda := { p.agenda with ready := rest } } t).2
      have hweight : turnsOf { p with agenda := { p.agenda with ready := rest } } t = turnsOf p t := by
        cases t <;> rfl
      rw [hweight, Nat.add_comm] at hturn
      exact hturn

end Pipeline

end AdConfirm
