import AdConfirm.Proofs.Tab.Taken

/-!
A tab among others is a tab alone.

All tabs draw the numbers of their attempts from one count and live in one table. Still an operation looks at nothing but the
slot of its own tab and the next number (`step_own`, `result_own`), and of a number only whether it is the same as another. So
when all that concerns other tabs is left out and the attempts of the tab are numbered anew, in their order, nothing that is
done to the tab comes out differently.

- `Slot.after`, `Slot.answer`: what an operation does to the slot of its tab, and what it returns.
- `after_renumber`, `answer_renumber`: they do not depend on how attempts are numbered.
- `Renumbers`: the numbers that the attempts of a tab have when it is alone. `rank_renumbers`: there are such.
- `alone_slot`: the slot of the tab after a run, and after the same run with the other tabs left out.
- `tab_alone`: the laws of a tab among others.
-/

namespace AdConfirm.Tab

/-- what an operation returns -/
inductive Result where
  | begun (t : Ticket)
  | completed (r : Except StaleTicket (List Waiting))
  | parked (r : Parking)
  | taken (ad : Option AdRecord)
  | dropped (ws : List Waiting)

def Ticket.renumber (ρ : Nat → Nat) (t : Ticket) : Ticket := { t with attempt := ρ t.attempt }

/-- the operation with another number on its ticket, if it has one -/
def Op.renumber (ρ : Nat → Nat) : Op → Op
  | .complete t ads => .complete (t.renumber ρ) ads
  | o => o

/-- the result with another number on its ticket, if it has one -/
def Result.renumber (ρ : Nat → Nat) : Result → Result
  | .begun t => .begun (t.renumber ρ)
  | .completed (.error e) => .completed (.error ⟨e.ticket.renumber ρ⟩)
  | r => r

/-- the slot with another number for its attempt, if one is under way -/
def Slot.renumber (ρ : Nat → Nat) (slot : Slot) : Slot := { slot with inFlight := slot.inFlight.map ρ }

/-- the slot of its tab after an operation, and the number of an attempt that begins now -/
def Slot.after (slot : Slot) (next : Nat) : Op → Slot
  | .begin _ => { slot with inFlight := some next }
  | .complete t ads => if slot.inFlight = some t.attempt then ⟨none, some ads, []⟩ else slot
  | .park _ w => if slot.ads.isSome then slot else { slot with pending := slot.pending ++ [w] }
  | .take _ id => { slot with ads := slot.ads.map fun ads => ads.erase id }
  | .reset _ => .fresh

/-- what an operation returns, given the slot of its tab and the number of an attempt that begins now -/
def Slot.answer (slot : Slot) (next : Nat) : Op → Result
  | .begin tab => .begun ⟨tab, next⟩
  | .complete t _ => .completed (if slot.inFlight = some t.attempt then .ok slot.pending else .error ⟨t⟩)
  | .park _ _ => .parked (if slot.ads.isSome then .ready else .parked)
  | .take _ id => .taken (slot.ads.bind fun ads => ads.find? id)
  | .reset _ => .dropped slot.pending

def Op.begins (tab : String) (o : Op) : Bool := o.isBegin && o.tab = tab

/-- what is done to one tab, its attempts numbered anew -/
def alone (ρ : Nat → Nat) (tab : String) (ops : List Op) : List Op := (ops.filter (·.tab = tab)).map (Op.renumber ρ)

namespace Sessions

def result (s : Sessions) : Op → Result
  | .begin tab => .begun (s.begin tab).2
  | .complete t ads => .completed (s.complete t ads).2
  | .park tab w => .parked (s.park tab w).2
  | .take tab id => .taken (s.take tab id).2
  | .reset tab => .dropped (s.reset tab).2

/-- the ticket was handed out in the run -/
def HandedOut (ops : List Op) (t : Ticket) : Prop := Ever (Issues · · t) ops

/-- every completion of the run uses a ticket that was handed out before -/
def Honest (ops : List Op) : Prop :=
  ∀ before t ads after, ops = before ++ .complete t ads :: after → HandedOut before t

/-! ## An operation looks at its own tab -/

/-- **What an operation does to its tab is told by the slot of the tab and the next number.** -/
theorem step_own (s : Sessions) (o : Op) : (s.step o).slot o.tab = (s.slot o.tab).after (s.attempts + 1) o := by
  cases o with
  | begin tab => exact (s.begin_slot tab tab).trans (if_pos rfl)
  | complete t ads =>
    by_cases h : (s.slot t.tab).inFlight = some t.attempt <;>
      simp [step, complete_slot, isCurrent_iff, Op.tab, Slot.after, h]
  | park tab w =>
    cases hads : (s.slot tab).ads with
    | none => simp [step, park_slot s w hads, Op.tab, Slot.after, hads]
    | some ads => simp [step, park_ready s w (by rw [hads]; rfl), Op.tab, Slot.after, hads]
  | take tab id => exact (s.take_slot tab id tab).trans (if_pos rfl)
  | reset tab => exact (s.reset_slot tab tab).trans (if_pos rfl)

/-- **What an operation returns is told by the slot of its tab and the next number.** -/
theorem result_own (s : Sessions) (o : Op) : s.result o = (s.slot o.tab).answer (s.attempts + 1) o := by
  cases o with
  | begin tab => rfl
  | complete t ads =>
    by_cases h : (s.slot t.tab).inFlight = some t.attempt <;>
      simp [result, complete_result, isCurrent_iff, Op.tab, Slot.answer, h]
  | park tab w =>
    by_cases hads : (s.slot tab).ads.isSome <;> simp [result, park_result, Op.tab, Slot.answer, hads]
  | take tab id => exact congrArg Result.taken (s.take_result tab id)
  | reset tab => exact congrArg Result.dropped (s.reset_dropped tab)

/-! ## Numbers do not matter -/

section Renumber

variable {ρ : Nat → Nat} {slot : Slot} {next next' : Nat} {o : Op}

/-- the new numbers tell the ticket of a completion from the attempt under way as the old ones do -/
def Tells (ρ : Nat → Nat) (slot : Slot) (o : Op) : Prop :=
  ∀ t ads, o = .complete t ads → ((slot.renumber ρ).inFlight = some (ρ t.attempt) ↔ slot.inFlight = some t.attempt)

@[simp] theorem tab_renumber (o : Op) : (o.renumber ρ).tab = o.tab := by cases o <;> rfl

@[simp] theorem isBegin_renumber (o : Op) : (o.renumber ρ).isBegin = o.isBegin := by cases o <;> rfl

theorem after_renumber (ho : Tells ρ slot o) (hnext : o.isBegin = true → ρ next = next') :
    (slot.renumber ρ).after next' (o.renumber ρ) = (slot.after next o).renumber ρ := by
  cases o with
  | begin tab => simp [Op.renumber, Slot.after, Slot.renumber, hnext rfl]
  | complete t ads =>
    simp only [Op.renumber, Slot.after, Ticket.renumber, ho t ads rfl]
    split_ifs <;> rfl
  | park tab w =>
    by_cases hads : slot.ads.isSome <;> simp [Op.renumber, Slot.after, Slot.renumber, hads]
  | take tab id => rfl
  | reset tab => rfl

theorem answer_renumber (ho : Tells ρ slot o) (hnext : o.isBegin = true → ρ next = next') :
    (slot.renumber ρ).answer next' (o.renumber ρ) = (slot.answer next o).renumber ρ := by
  cases o with
  | begin tab => simp [Op.renumber, Slot.answer, Result.renumber, Ticket.renumber, hnext rfl]
  | complete t ads =>
    simp only [Op.renumber, Slot.answer, Ticket.renumber, ho t ads rfl]
    split_ifs <;> rfl
  | park tab w => rfl
  | take tab id => rfl
  | reset tab => rfl

end Renumber

/-! ## The numbers of a tab alone -/

/-- the attempts of the tab get the numbers that they have when it is alone -/
def Renumbers (ρ : Nat → Nat) (tab : String) (ops : List Op) : Prop :=
  ∀ before after, ops = before ++ .begin tab :: after → ρ (begun before + 1) = before.countP (Op.begins tab) + 1

/-- how many of the first attempts are those of the tab -/
def rank (tab : String) (ops : List Op) (n : Nat) : Nat := ((ops.filter Op.isBegin).take n).countP (Op.begins tab)

theorem rank_renumbers (tab : String) (ops : List Op) : Renumbers (rank tab ops) tab ops := by
  rintro before after rfl
  have hbegins : Op.begins tab (.begin tab) = true := by simp [Op.begins, Op.isBegin, Op.tab]
  have hfilter : (before.filter Op.isBegin).countP (Op.begins tab) = before.countP (Op.begins tab) := by
    rw [List.countP_filter]
    exact List.countP_congr fun o _ => by cases ho : o.isBegin <;> simp [Op.begins, ho]
  have htake : ((before ++ .begin tab :: after).filter Op.isBegin).take (begun before + 1) =
      before.filter Op.isBegin ++ [.begin tab] := by
    have hlength : begun before = (before.filter Op.isBegin).length := List.countP_eq_length_filter
    rw [List.filter_append, List.filter_cons_of_pos rfl, hlength, List.take_append, List.take_of_length_le (Nat.le_succ _)]
    simp
  rw [rank, htake, List.countP_append, hfilter, List.countP_singleton, if_pos hbegins]

theorem begun_alone (ρ : Nat → Nat) (tab : String) (ops : List Op) :
    begun (alone ρ tab ops) = ops.countP (Op.begins tab) := by
  rw [begun, alone, List.countP_map, List.countP_filter]
  exact List.countP_congr fun o _ => by simp [Op.begins]

/-- A ticket that was handed out shows the number of attempts that began before, and one more. -/
theorem HandedOut.number {ops : List Op} {t : Ticket} (h : HandedOut ops t) :
    ∃ before after, ops = before ++ .begin t.tab :: after ∧ t.attempt = begun before + 1 := by
  obtain ⟨before, o, after, rfl, rfl, hnew⟩ := h
  rw [begin_number] at hnew
  exact ⟨before, after, rfl, (congrArg Ticket.attempt hnew).symm⟩

theorem HandedOut.append {ops : List Op} {t : Ticket} (h : HandedOut ops t) (more : List Op) : HandedOut (ops ++ more) t := by
  obtain ⟨before, o, after, rfl, hissues⟩ := h
  exact ⟨before, o, after ++ more, by simp, hissues⟩

theorem Current.handedOut {ops : List Op} {t : Ticket} (h : Current ops t) : HandedOut ops t := by
  obtain ⟨before, o, after, heq, hissues, -⟩ := h
  exact ⟨before, o, after, heq, hissues⟩

section Alone

variable {ρ : Nat → Nat} {tab : String} {ops : List Op} {t t' : Ticket}

/-- **The new numbers are in the order of the old ones.** -/
theorem Renumbers.lt (hρ : Renumbers ρ tab ops) (ht : t.tab = tab) (ht' : t'.tab = tab) (h : HandedOut ops t)
    (h' : HandedOut ops t') (hlt : t.attempt < t'.attempt) : ρ t.attempt < ρ t'.attempt := by
  subst ht
  obtain ⟨before, after, heq, hn⟩ := h.number
  obtain ⟨before', after', heq', hn'⟩ := h'.number
  rw [ht'] at heq'
  rw [hn, hn', hρ before after heq, hρ before' after' heq']
  -- the attempt with the smaller number began earlier
  obtain ⟨mid, rfl⟩ : ∃ mid, before' = before ++ .begin t.tab :: mid := by
    rcases List.append_eq_append_iff.1 (heq.symm.trans heq') with ⟨l, rfl, hl⟩ | ⟨l, rfl, -⟩
    · cases l with
      | nil => simp at hn'; omega
      | cons o l =>
        obtain ⟨rfl, -⟩ := List.cons.inj hl
        exact ⟨l, rfl⟩
    · rw [begun_append] at hn
      omega
  rw [List.countP_append, List.countP_cons_of_pos (by simp [Op.begins, Op.isBegin, Op.tab])]
  omega

theorem Renumbers.inj (hρ : Renumbers ρ tab ops) (ht : t.tab = tab) (ht' : t'.tab = tab) (h : HandedOut ops t)
    (h' : HandedOut ops t') (heq : ρ t.attempt = ρ t'.attempt) : t.attempt = t'.attempt := by
  rcases Nat.lt_trichotomy t.attempt t'.attempt with hlt | hsame | hlt
  · exact absurd heq (Nat.ne_of_lt (hρ.lt ht ht' h h' hlt))
  · exact hsame
  · exact absurd heq.symm (Nat.ne_of_lt (hρ.lt ht' ht h' h hlt))

/-- The new numbers tell the tickets of a tab from its attempt under way. -/
theorem Renumbers.tells (hρ : Renumbers ρ tab ops) (hops : Honest ops) {before after : List Op} {o : Op}
    (heq : ops = before ++ o :: after) (ho : o.tab = tab) : Tells ρ ((run before).slot tab) o := by
  rintro t ads rfl
  have ht : HandedOut ops t := heq ▸ (hops before t ads after heq).append _
  simp only [Slot.renumber, Option.map_eq_some_iff]
  constructor
  · rintro ⟨n, hn, hρn⟩
    have hcurrent : HandedOut ops ⟨tab, n⟩ := heq ▸ ((inFlight_run before ⟨tab, n⟩).1 hn).handedOut.append _
    have hsame : n = t.attempt := hρ.inj (t := ⟨tab, n⟩) rfl ho hcurrent ht hρn
    rw [hn, hsame]
  · exact fun hn => ⟨_, hn, rfl⟩

theorem Renumbers.next (hρ : Renumbers ρ tab ops) {before after : List Op} {o : Op} (heq : ops = before ++ o :: after)
    (ho : o.tab = tab) (hb : o.isBegin = true) :
    ρ ((run before).attempts + 1) = (run (alone ρ tab before)).attempts + 1 := by
  cases o with
  | begin j =>
    obtain rfl : j = tab := ho
    rw [attempts_run, attempts_run, begun_alone]
    exact hρ before after heq
  | _ => cases hb

theorem alone_snoc_own {before : List Op} {o : Op} (ho : o.tab = tab) :
    alone ρ tab (before ++ [o]) = alone ρ tab before ++ [o.renumber ρ] := by
  simp [alone, List.filter_append, ho]

theorem alone_snoc_other {before : List Op} {o : Op} (ho : o.tab ≠ tab) :
    alone ρ tab (before ++ [o]) = alone ρ tab before := by
  simp [alone, List.filter_append, ho]

/-- **The slot of the tab alone is its slot among the others**, the attempt numbered anew. -/
theorem alone_slot (hρ : Renumbers ρ tab ops) (hops : Honest ops) {before after : List Op} (heq : ops = before ++ after) :
    (run (alone ρ tab before)).slot tab = ((run before).slot tab).renumber ρ := by
  induction before using List.reverseRecOn generalizing after with
  | nil => rfl
  | append_singleton before o ih =>
    rw [List.append_assoc, List.singleton_append] at heq
    have hslot := ih heq
    by_cases ho : o.tab = tab
    · have hown := step_own (run before) o
      have hown' := step_own (run (alone ρ tab before)) (o.renumber ρ)
      rw [tab_renumber, ho] at hown'
      rw [ho] at hown
      rw [alone_snoc_own ho, run_snoc, run_snoc]
      calc ((run (alone ρ tab before)).step (o.renumber ρ)).slot tab
          = (((run before).slot tab).renumber ρ).after ((run (alone ρ tab before)).attempts + 1) (o.renumber ρ) := by
            rw [hown', hslot]
        _ = (((run before).slot tab).after ((run before).attempts + 1) o).renumber ρ :=
            after_renumber (hρ.tells hops heq ho) (hρ.next heq ho)
        _ = (((run before).step o).slot tab).renumber ρ := by rw [hown]
    · rw [alone_snoc_other ho, run_snoc, step_slot _ ho, hslot]

theorem alone_result (hρ : Renumbers ρ tab ops) (hops : Honest ops) {before after : List Op} {o : Op}
    (heq : ops = before ++ o :: after) (ho : o.tab = tab) :
    (run (alone ρ tab before)).result (o.renumber ρ) = ((run before).result o).renumber ρ := by
  rw [result_own, result_own, tab_renumber, ho, alone_slot hρ hops heq]
  exact answer_renumber (hρ.tells hops heq ho) (hρ.next heq ho)

theorem handedOut_alone (hρ : Renumbers ρ tab ops) (hops : Honest ops) {before after : List Op} (heq : ops = before ++ after)
    (ht : t.tab = tab) (h : HandedOut before t) : HandedOut (alone ρ tab before) (t.renumber ρ) := by
  obtain ⟨earlier, o, rest, rfl, rfl, hnew⟩ := h
  subst ht
  rw [List.append_assoc, List.cons_append] at heq
  have hresult : Result.begun ((run (alone ρ t.tab earlier)).begin t.tab).2 = .begun (t.renumber ρ) :=
    (alone_result hρ hops heq rfl).trans (congrArg (Result.renumber ρ) (congrArg Result.begun hnew))
  refine ⟨alone ρ t.tab earlier, .begin t.tab, alone ρ t.tab rest, ?_, rfl, Result.begun.inj hresult⟩
  simp [alone, List.filter_append, Op.tab, Op.renumber]

end Alone

theorem honest_iff_always {ops : List Op} :
    Honest ops ↔ Always (fun before o => ∀ t ads, o = .complete t ads → HandedOut before t) ops :=
  ⟨fun h before _ after heq t ads ho => h before t ads after (ho ▸ heq),
    fun h before t ads after heq => h before _ after heq t ads rfl⟩

theorem honest_nil : Honest [] := honest_iff_always.2 always_nil

theorem honest_snoc {ops : List Op} {o : Op} :
    Honest (ops ++ [o]) ↔ Honest ops ∧ ∀ t ads, o = .complete t ads → HandedOut ops t := by
  rw [honest_iff_always, honest_iff_always, always_snoc]

/-- The tab alone is run with tickets that were handed out, too. -/
theorem alone_honest {ρ : Nat → Nat} {tab : String} {ops : List Op} (hρ : Renumbers ρ tab ops) (hops : Honest ops)
    {before after : List Op} (heq : ops = before ++ after) : Honest (alone ρ tab before) := by
  induction before using List.reverseRecOn generalizing after with
  | nil => exact honest_nil
  | append_singleton before o ih =>
    rw [List.append_assoc, List.singleton_append] at heq
    by_cases ho : o.tab = tab
    · rw [alone_snoc_own ho]
      refine honest_snoc.2 ⟨ih heq, fun t ads hcomplete => ?_⟩
      cases o with
      | complete u ads' =>
        obtain ⟨rfl, -⟩ := Op.complete.inj hcomplete
        exact handedOut_alone hρ hops heq ho (hops before u ads' after heq)
      | _ => cases hcomplete
    · rw [alone_snoc_other ho]
      exact ih heq

/-- **A tab among others is a tab alone.** In every run whose completions use tickets that were handed out before, and for every
tab: the attempts of the tab can be numbered anew, in their order, such that the following holds of the run with all steps left
out that concern other tabs. It too completes with tickets that were handed out before. Every step on the tab returns there what
it returns among the others, the number of its ticket apart: a completion is accepted and hands back the same requests, or is
refused; an offered request waits or comes straight back; an ad is taken or not; a reset drops the same requests. And after
every step of the run, be it on this tab or another, the tab has the same answers to whether its ads are known, how many it has,
whether an ad can still be taken, and how many requests wait. -/
theorem tab_alone (ops : List Op) (tab : String) (h : Honest ops) :
    ∃ ρ : Nat → Nat,
      (∀ t t' : Ticket, t.tab = tab → t'.tab = tab → HandedOut ops t → HandedOut ops t' → t.attempt < t'.attempt →
        ρ t.attempt < ρ t'.attempt) ∧
      Honest (alone ρ tab ops) ∧
      (∀ before o after, ops = before ++ o :: after → o.tab = tab →
        (run (alone ρ tab before)).result (o.renumber ρ) = ((run before).result o).renumber ρ) ∧
      ∀ before after, ops = before ++ after → let among := run before; let apart := run (alone ρ tab before)
        apart.hasAds tab = among.hasAds tab ∧ apart.adCount tab = among.adCount tab ∧
        (∀ id, apart.containsAd tab id = among.containsAd tab id) ∧ apart.pendingCount tab = among.pendingCount tab := by
  have hρ := rank_renumbers tab ops
  have hhonest : Honest (alone (rank tab ops) tab ops) := alone_honest hρ h (List.append_nil ops).symm
  refine ⟨rank tab ops, fun t t' => hρ.lt, hhonest, fun before o after => alone_result hρ h, ?_⟩
  intro before after heq among apart
  have hslot : apart.slot tab = (among.slot tab).renumber (rank tab ops) := alone_slot hρ h heq
  have hads : (apart.slot tab).ads = (among.slot tab).ads := by
    rw [hslot]
    rfl
  refine ⟨?_, ?_, fun id => ?_, ?_⟩
  · rw [hasAds, hasAds, hads]
  · rw [adCount, adCount, hads]
  · rw [containsAd, containsAd, hads]
  · rw [pendingCount, pendingCount, hslot]
    rfl

/-- two attempts of a tab, the second after another tab's, and a request that waits -/
def threeAttempts : List Op := [.begin "a", .begin "b", .begin "a", .park "a" ⟨0, "x"⟩]

/-- the attempts complete, the later ones first -/
def interleaved : List Op :=
  threeAttempts ++ [.complete ⟨"a", 3⟩ .empty] ++ [.complete ⟨"b", 2⟩ .empty] ++ [.complete ⟨"a", 1⟩ .empty]

theorem interleaved_honest : Honest interleaved := by
  have hstart : Honest threeAttempts := fun before t ads after heq => by
    have hmem : Op.complete t ads ∈ threeAttempts := heq ▸ by simp
    simp [threeAttempts] at hmem
  refine honest_snoc.2 ⟨honest_snoc.2 ⟨honest_snoc.2 ⟨hstart, ?_⟩, ?_⟩, ?_⟩
  · rintro t ads ⟨⟩
    exact ⟨[.begin "a", .begin "b"], _, _, rfl, rfl, rfl⟩
  · rintro t ads ⟨⟩
    exact ⟨[.begin "a"], _, _, rfl, rfl, rfl⟩
  · rintro t ads ⟨⟩
    exact ⟨[], _, _, rfl, rfl, rfl⟩

theorem tab_alone_interleaved : Honest interleaved ∧ (run interleaved).hasAds "a" = true ∧
    ∃ ρ : Nat → Nat, ρ 1 < ρ 3 ∧ (run (alone ρ "a" interleaved)).hasAds "a" = true := by
  obtain ⟨ρ, hlt, -, -, hview⟩ := tab_alone interleaved "a" interleaved_honest
  have hads : (run interleaved).hasAds "a" = true := by decide +kernel
  have hfirst : HandedOut interleaved ⟨"a", 1⟩ := ⟨[], _, _, rfl, rfl, rfl⟩
  have hthird : HandedOut interleaved ⟨"a", 3⟩ := ⟨[.begin "a", .begin "b"], _, _, rfl, rfl, rfl⟩
  refine ⟨interleaved_honest, hads, ρ, ?_, (hview interleaved [] (List.append_nil _).symm).1.trans hads⟩
  exact hlt ⟨"a", 1⟩ ⟨"a", 3⟩ rfl rfl hfirst hthird (by decide)

end Sessions

end AdConfirm.Tab
