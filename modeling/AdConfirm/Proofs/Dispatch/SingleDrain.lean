import AdConfirm.Proofs.Dispatch.Play
import AdConfirm.Proofs.History

/-!
One drain at a time, and no entry left behind.

- `claims`: after a claim a drain is running, a section is open, or nothing waits. This is why an enqueue and the closing of
  the last open section hand the queue over to a drain.
- `play_tended`: after every play a drain is running, nothing waits, a section is open, or the reporter broke down and
  since then nothing was queued and the last open section did not close.
- `one_drain_never_stranded`: the flag is set exactly while there is one drain task, of which there are never two; the
  counter of sections is the number of open guards; entries are stranded only after a breakdown of the reporter, and
  the next enqueue, or the next time the last open section closes, starts the drain again for all that wait.
-/

namespace AdConfirm.Dispatch

namespace Machine

variable (reporter : Reporter) (limit : Nat)

/-- closing this guard closes the last open section -/
def ClosesLast (m : Machine) (i : Nat) : Prop := m.guards[i]? = some true ∧ m.guards.count true = 1

/-- entries wait, no drain is there to take them, and no section is open that would start one when it closes -/
def Stranded (m : Machine) : Prop := m.queue.dispatching = false ∧ true ∉ m.guards ∧ m.queue.stack.entries ≠ []

/-- one drain is there that has not begun, and whatever waited before waits for it -/
def Restarted (m m' : Machine) : Prop :=
  m'.queue.dispatching = true ∧ m'.drainTasks = [.start] ∧ m.queue.stack.entries <:+ m'.queue.stack.entries

/-- the reporter broke down in a turn of the play, and since then nothing was queued and the last open section did not
close -/
def BrokenSince (acts : List Act) : Prop :=
  ∃ before after notes, acts = before ++ .beat .turn :: after ∧
    (play reporter limit (before ++ [.beat .turn])).history = (play reporter limit before).history ++ notes ∧
    BreaksDown notes ∧ (∀ ad, .enqueue ad ∉ after) ∧
    ∀ as i bs, after = as ++ .closeSection i :: bs →
      ¬ (play reporter limit (before ++ .beat .turn :: as)).ClosesLast i

variable {reporter limit}

/-- what nothing has been queued since, and no last section closed, goes on -/
theorem BrokenSince.snoc {acts : List Act} (h : BrokenSince reporter limit acts) {a : Act} (ha : ∀ ad, a ≠ .enqueue ad)
    (hc : ∀ i, a = .closeSection i → ¬ (play reporter limit acts).ClosesLast i) :
    BrokenSince reporter limit (acts ++ [a]) := by
  obtain ⟨before, after, notes, rfl, hn, hb, hq, hs⟩ := h
  refine ⟨before, after ++ [a], notes, by simp, hn, hb, ?_, ?_⟩
  · intro ad hm
    rcases List.mem_append.1 hm with hm | hm
    · exact hq ad hm
    · exact ha ad (List.mem_singleton.1 hm).symm
  · intro as i bs heq
    rcases snoc_eq_split_iff.1 heq with ⟨rfl, rfl, -⟩ | ⟨rest, -, hrest⟩
    · exact hc i rfl
    · exact hs as i rest hrest

/-! ## Handing over -/

/-- after a claim a drain is running, a section is open, or nothing waits -/
theorem claims (q : Queue) : q.claim.1.dispatching = true ∨ 0 < q.sections ∨ q.stack.entries = [] := by
  unfold Queue.claim
  split_ifs with hw
  · exact Or.inl rfl
  · simp only [Queue.wantsDrain, Stack.isEmpty, Bool.and_eq_true, Bool.not_eq_true', decide_eq_true_eq,
      List.isEmpty_eq_false_iff, not_and_or, not_not, Bool.not_eq_false] at hw
    rcases hw with (h | h) | h
    · exact Or.inl h
    · exact Or.inr (Or.inl (Nat.pos_of_ne_zero h))
    · exact Or.inr (Or.inr h)

/-- a claim that finds entries waiting, no drain and no open section spawns a drain -/
theorem adopt_claim_restarted {m : Machine} {q : Queue} (hf : Flagged reporter limit m.queue m.drainTasks)
    (hd : m.queue.dispatching = false) (hq : q.dispatching = false) (hs : q.sections = 0) (he : q.stack.entries ≠ []) :
    (m.adopt q.claim).queue.dispatching = true ∧ (m.adopt q.claim).drainTasks = [.start] := by
  have hw : q.wantsDrain = true := by
    simp only [Queue.wantsDrain, Stack.isEmpty, hq, hs, Bool.not_false, decide_true, Bool.true_and, Bool.not_eq_true',
      List.isEmpty_eq_false_iff]
    exact he
  have ht : m.agenda.tasks = [] := by
    rcases hf with ⟨ht, -⟩ | ⟨d, -, hd', -⟩
    · exact ht
    · rw [hd] at hd'; exact absurd hd' (by decide)
  have hp := m.agenda.tasks_spawn .start
  rw [ht] at hp
  simp only [Queue.claim, hw, if_true, adopt, drainTasks]
  exact ⟨trivial, List.perm_singleton.1 hp⟩

theorem enqueue_restarted {m : Machine} (h : Inv reporter limit m) (hs : m.Stranded) (ad : AdRecord) :
    m.Restarted (m.enqueue ad) := by
  obtain ⟨hd, hg, -⟩ := hs
  have hsec : m.queue.sections = 0 := h.sections.trans (List.count_eq_zero.2 hg)
  obtain ⟨h1, h2⟩ := adopt_claim_restarted (q := m.queue.withAd ad) h.flagged hd hd hsec (List.cons_ne_nil _ _)
  refine ⟨h1, h2, ?_⟩
  have : (m.enqueue ad).queue.stack = m.queue.stack.push (m.queue.entryOf ad) := stack_claim _
  rw [this]
  exact List.suffix_cons _ _

theorem closeSection_restarted {m : Machine} (h : Inv reporter limit m) (hd : m.queue.dispatching = false)
    (he : m.queue.stack.entries ≠ []) {i : Nat} (hi : m.ClosesLast i) : m.Restarted (m.closeSection i) := by
  obtain ⟨hopen, hone⟩ := hi
  have hc : m.closeSection i = { m with guards := m.guards.set i false }.adopt m.queue.closeSection := by
    simp [closeSection, hopen]
  obtain ⟨h1, h2⟩ := adopt_claim_restarted (m := { m with guards := m.guards.set i false })
    (q := { m.queue with sections := m.queue.sections - 1 }) h.flagged hd hd (by rw [h.sections, hone]) he
  rw [hc]
  refine ⟨h1, h2, ?_⟩
  have : ({ m with guards := m.guards.set i false }.adopt m.queue.closeSection).queue.stack = m.queue.stack :=
    stack_claim _
  rw [this]

/-! ## What keeps entries from being stranded -/

/-- somebody will see to the entries that wait -/
def Tended (m : Machine) : Prop := m.queue.dispatching = true ∨ m.queue.stack.entries = [] ∨ 0 < m.queue.sections

theorem enqueue_tended (m : Machine) (ad : AdRecord) : (m.enqueue ad).Tended := by
  rcases claims (m.queue.withAd ad) with h | h | h
  · exact Or.inl h
  · exact Or.inr (Or.inr ((sections_claim _).symm ▸ h))
  · exact absurd h (List.cons_ne_nil _ _)

theorem closeSection_tended {m : Machine} {i : Nat} (hi : m.guards[i]? = some true) : (m.closeSection i).Tended := by
  have hc : m.closeSection i = { m with guards := m.guards.set i false }.adopt m.queue.closeSection := by
    simp [closeSection, hi]
  rw [hc]
  rcases claims { m.queue with sections := m.queue.sections - 1 } with h | h | h
  · exact Or.inl h
  · exact Or.inr (Or.inr ((sections_claim _).symm ▸ h))
  · exact Or.inr (Or.inl ((congrArg Stack.entries (stack_claim _)).trans h))

theorem Turned.tended {m m' : Machine} {d : Drain} (t : Turned reporter limit m d m') :
    m'.Tended ∨ BreaksDown (m.queue.turn reporter limit d).notes := by
  rcases turn_flagged d t.dispatching with ⟨hl, -⟩ | ⟨d', -, hd, -⟩
  · rcases turn_stops hl with h | h | h
    · exact Or.inl (Or.inr (Or.inr (by rw [t.queue, (turn_frame _ d).1]; exact h)))
    · exact Or.inl (Or.inr (Or.inl (by rw [t.queue]; exact h)))
    · exact Or.inr h
  · exact Or.inl (Or.inl (by rw [t.queue]; exact hd))

variable (reporter limit) in
theorem play_tended (acts : List Act) :
    (play reporter limit acts).Tended ∨ BrokenSince reporter limit acts := by
  induction acts using List.reverseRecOn with
  | nil => exact Or.inl (Or.inr (Or.inl rfl))
  | append_singleton acts a ih =>
    have hinv := play_inv reporter limit acts
    rw [play_snoc]
    cases a with
    | enqueue ad => exact Or.inl (enqueue_tended _ ad)
    | openSection => exact Or.inl (Or.inr (Or.inr (Nat.succ_pos _)))
    | closeSection i =>
      by_cases hi : (play reporter limit acts).guards[i]? = some true
      · exact Or.inl (closeSection_tended hi)
      · have hsame : (play reporter limit acts).act reporter limit (.closeSection i) = play reporter limit acts := by
          simp [act, closeSection, hi]
        rw [hsame]
        refine ih.imp id fun h => h.snoc (by simp) ?_
        rintro j hj ⟨hopen, -⟩
        cases hj
        exact hi hopen
    | beat b =>
      cases b with
      | turn =>
        rcases beat_turn_cases hinv.flagged with ⟨-, hsame⟩ | ⟨d, ht⟩
        · rw [hsame]
          exact ih.imp id fun h => h.snoc (by simp) (by simp)
        · refine ht.tended.imp id fun hb => ?_
          exact ⟨acts, [], _, rfl, by rw [play_snoc]; exact ht.history, hb, by simp, by simp⟩
      | moveTo time => exact ih.imp id fun h => h.snoc (by simp) (by simp)

/-- **One drain, and nothing stranded.** Every run is a play. After every play the flag is set exactly while one drain
task is spawned and has not ended, and there are never two; the counter is the number of open guards; and if entries are
stranded, the reporter broke down and since then nothing was queued and the last open section did not close. An enqueue
that finds entries stranded, and the closing of the last open section when no drain is there, start one for all of them. -/
theorem one_drain_never_stranded (reporter : Reporter) (limit : Nat) :
    (∀ ops, ∃ acts, run reporter limit ops = play reporter limit acts ∧
      acts.filter Act.isCommand = ops.filterMap Op.act?) ∧
    ∀ acts, let m := play reporter limit acts
      m.drainTasks.length ≤ 1 ∧ (m.queue.dispatching = true ↔ m.drainTasks.length = 1) ∧
      m.queue.sections = m.guards.count true ∧
      (m.Stranded → BrokenSince reporter limit acts) ∧
      (m.Stranded → ∀ ad, m.Restarted (m.enqueue ad)) ∧
      (m.queue.dispatching = false → m.queue.stack.entries ≠ [] → ∀ i, m.ClosesLast i →
        m.Restarted (m.closeSection i)) := by
  refine ⟨run_eq_play reporter limit, ?_⟩
  intro acts m
  have hinv : Inv reporter limit m := play_inv reporter limit acts
  have hflag : m.drainTasks.length ≤ 1 ∧ (m.queue.dispatching = true ↔ m.drainTasks.length = 1) := by
    rcases hinv.flagged with ⟨ht, hd⟩ | ⟨d, ht, hd, -⟩
    · simp [ht, hd]
    · simp [ht, hd]
  refine ⟨hflag.1, hflag.2, hinv.sections, ?_, fun hs ad => enqueue_restarted hinv hs ad,
    fun hd he i hi => closeSection_restarted hinv hd he hi⟩
  rintro ⟨hd, hg, he⟩
  rcases play_tended reporter limit acts with (h | h | h) | h
  · rw [show (play reporter limit acts).queue.dispatching = false from hd] at h
    exact absurd h (by decide)
  · exact absurd h he
  · rw [hinv.sections, List.count_pos_iff] at h
    exact absurd h hg
  · exact h

end Machine

end AdConfirm.Dispatch
