import AdConfirm.Ad.Sample
import AdConfirm.Proofs.Dispatch.Play

/-!
Every ad goes out once, and the newest that waits goes first.

- `waitingAfter`, `queuedIn`, `handedIn`: what the notes say waits, was queued, and was handed to the reporter.
- `Follows.perm`, `Follows.sublist`: what was handed over and what waits is what was queued; what waits stands in the
  reverse order of arrival.
- `play_queued`: the entries are the ads of the play in their order, numbered from zero; `play_ordered`: while the numbers
  last, they increase.
- `newest_first`: the laws of the queue as a whole.
-/

namespace AdConfirm.Dispatch

/-- the entries handed to the reporter, the first first -/
def handedIn (ns : List Note) : List Entry :=
  ns.filterMap fun n => match n with
    | .started e => some e
    | _ => none

/-- what a note does to the entries that wait -/
def Note.onWaiting (ws : List Entry) : Note → List Entry
  | .queued e => e :: ws
  | .started e => ws.erase e
  | .ended _ _ => ws

/-- the entries that wait after some notes: those queued and not handed over -/
def waitingAfter (ns : List Note) : List Entry := ns.foldl Note.onWaiting []

def adsIn (acts : List Act) : List AdRecord := acts.filterMap Act.ad?

/-- ads numbered from zero -/
def numbered (ads : List AdRecord) : List Entry := ads.mapIdx fun i ad => ⟨i, ad⟩

variable {reporter : Reporter} {limit : Nat}

theorem mem_queuedIn {ns : List Note} {e : Entry} : e ∈ queuedIn ns ↔ .queued e ∈ ns := by
  simp only [queuedIn, List.mem_filterMap]
  constructor
  · rintro ⟨n, hn, he⟩
    cases n <;> simp_all
  · intro h
    exact ⟨_, h, rfl⟩

theorem mem_handedIn {ns : List Note} {e : Entry} : e ∈ handedIn ns ↔ .started e ∈ ns := by
  simp only [handedIn, List.mem_filterMap]
  constructor
  · rintro ⟨n, hn, he⟩
    cases n <;> simp_all
  · intro h
    exact ⟨_, h, rfl⟩

theorem numbered_increasing (ads : List AdRecord) : (numbered ads).Pairwise fun e f => e.seq < f.seq := by
  rw [List.pairwise_iff_getElem]
  intro i j hi hj hij
  simpa [numbered] using hij

theorem mem_numbered {ads : List AdRecord} {e : Entry} : e ∈ numbered ads ↔ ads[e.seq]? = some e.ad := by
  simp only [numbered, List.mem_mapIdx, List.getElem?_eq_some_iff]
  constructor
  · rintro ⟨i, hi, rfl⟩
    exact ⟨hi, rfl⟩
  · rintro ⟨hi, he⟩
    exact ⟨e.seq, hi, by rw [he]⟩

theorem handedIn_append (ns ms : List Note) : handedIn (ns ++ ms) = handedIn ns ++ handedIn ms :=
  List.filterMap_append

/-! ## What notes that follow each other say of the entries -/

theorem Follows.foldl_onWaiting {v w : View} {ns : List Note} (h : Follows reporter limit v ns w) :
    ns.foldl Note.onWaiting v.waiting = w.waiting := by
  induction h with
  | done => rfl
  | queued e h ih => exact ih
  | started e h ih => simpa [Note.onWaiting] using ih
  | ended e ho h ih => exact ih

theorem Follows.waitingAfter {cs : List Entry} {w : View} {ns : List Note} (h : Follows reporter limit ⟨[], cs⟩ ns w) :
    waitingAfter ns = w.waiting := h.foldl_onWaiting

/-- what was handed over and what waits now is what waited before and what was queued -/
theorem Follows.perm {v w : View} {ns : List Note} (h : Follows reporter limit v ns w) :
    (handedIn ns ++ w.waiting).Perm (v.waiting ++ queuedIn ns) := by
  induction h with
  | done v => simp [handedIn, queuedIn]
  | queued e h ih => exact ih.trans List.perm_middle.symm
  | started e h ih => exact ih.cons e
  | ended e ho h ih => exact ih

/-- what waits stands in the reverse order of its arrival -/
theorem Follows.sublist {v w : View} {ns : List Note} (h : Follows reporter limit v ns w) :
    w.waiting.Sublist ((queuedIn ns).reverse ++ v.waiting) := by
  induction h with
  | done v => exact List.Sublist.refl _
  | queued e h ih => simpa [queuedIn] using ih
  | @started e ws ns v h ih => exact ih.trans ((List.sublist_cons_self e ws).append_left _)
  | ended e ho h ih => exact ih

/-- the entry handed over is the first of those that wait -/
theorem Follows.head {v w : View} {e : Entry} {ns : List Note} (h : Follows reporter limit v (.started e :: ns) w) :
    ∃ ws, v.waiting = e :: ws := by
  cases h with
  | started _ h => exact ⟨_, rfl⟩

namespace Machine

/-! ## The entries of a play -/

/-- the numbers of entries begin anew after the greatest one of 64 bits -/
theorem play_queued_mod (acts : List Act) :
    queuedIn (play reporter limit acts).history = (adsIn acts).mapIdx (fun i ad => ⟨i % UInt64.size, ad⟩) ∧
      (play reporter limit acts).queue.nextSeq.toNat = (adsIn acts).length % UInt64.size := by
  induction acts using List.reverseRecOn with
  | nil => exact ⟨rfl, rfl⟩
  | append_singleton acts a ih =>
    obtain ⟨notes, ha⟩ := act_acted (play_inv reporter limit acts) a
    obtain ⟨ih1, ih2⟩ := ih
    have hads : adsIn (acts ++ [a]) = adsIn acts ++ a.ad?.toList := by
      cases hd : a.ad? <;> simp [adsIn, hd]
    rw [play_snoc, ha.history, ha.nextSeq, queuedIn_append, ha.queued, ih1, hads]
    cases a.ad? with
    | none => simpa using ih2
    | some ad =>
      refine ⟨?_, ?_⟩
      · simp [List.mapIdx_append, Queue.entryOf, ih2]
      · simp [UInt64.toNat_add, ih2, UInt64.size]

variable (reporter limit) in
theorem queuedIn_play {acts : List Act} (hn : (adsIn acts).length < UInt64.size) :
    queuedIn (play reporter limit acts).history = numbered (adsIn acts) := by
  rw [(play_queued_mod acts).1, numbered]
  refine List.ext_getElem (by simp) ?_
  intro i hi _
  have hi' : i < (adsIn acts).length := by simpa using hi
  simp [Nat.mod_eq_of_lt (hi'.trans hn)]

/-- what waits at some point of the history of a play stands in decreasing order, the newest first -/
theorem waitingAfter_ordered {acts : List Act} (hn : (adsIn acts).length < UInt64.size) {before after : List Note}
    (heq : (play reporter limit acts).history = before ++ after) :
    (waitingAfter before).Pairwise fun e f => f.seq < e.seq := by
  obtain ⟨v, h1, -⟩ := (heq ▸ (play_inv reporter limit acts).follows).split
  rw [h1.waitingAfter]
  have hq : (queuedIn before).Sublist (numbered (adsIn acts)) := by
    rw [← queuedIn_play reporter limit hn, heq, queuedIn_append]
    exact List.sublist_append_left _ _
  have hinc : (queuedIn before).reverse.Pairwise fun e f => f.seq < e.seq :=
    List.pairwise_reverse.2 ((numbered_increasing _).sublist hq)
  exact hinc.sublist (by simpa using h1.sublist)

/-- what is handed over is the greatest of what waits -/
theorem started_greatest {acts : List Act} (hn : (adsIn acts).length < UInt64.size) {before after : List Note} {e : Entry}
    (heq : (play reporter limit acts).history = before ++ .started e :: after) :
    e ∈ waitingAfter before ∧ ∀ f ∈ waitingAfter before, f.seq ≤ e.seq := by
  obtain ⟨v, h1, h2⟩ := (heq ▸ (play_inv reporter limit acts).follows).split
  obtain ⟨ws, hws⟩ := h2.head
  have hord := waitingAfter_ordered hn heq
  rw [h1.waitingAfter, hws] at hord ⊢
  refine ⟨List.mem_cons_self, fun f hf => ?_⟩
  rcases List.mem_cons.1 hf with rfl | hf
  · exact le_rfl
  · exact (List.rel_of_pairwise_cons hord hf).le

/-- of two entries that wait together the newer one is handed over first -/
theorem newer_first {acts : List Act} (hn : (adsIn acts).length < UInt64.size) {early late before after : List Note}
    {e f : Entry} (hearly : (play reporter limit acts).history = early ++ late) (hf : f ∈ queuedIn early)
    (he : .started e ∉ early) (hlt : e.seq < f.seq)
    (heq : (play reporter limit acts).history = before ++ .started e :: after) : .started f ∈ before := by
  have hle : early <+: before := by
    rcases List.prefix_or_prefix_of_prefix ⟨late, hearly.symm⟩
      (⟨after, by simp [heq]⟩ : before ++ [.started e] <+: (play reporter limit acts).history) with h | h
    · rcases List.prefix_concat_iff.1 h with h | h
      · exact absurd (by simp [h]) he
      · exact h
    · exact absurd (h.subset (by simp)) he
  obtain ⟨v, h1, -⟩ := (heq ▸ (play_inv reporter limit acts).follows).split
  have hq : f ∈ queuedIn before := mem_queuedIn.2 (hle.subset (mem_queuedIn.1 hf))
  have hm : f ∈ handedIn before ++ v.waiting := h1.perm.mem_iff.2 (by simpa using hq)
  rcases List.mem_append.1 hm with hm | hm
  · exact mem_handedIn.1 hm
  · rw [← h1.waitingAfter] at hm
    have := (started_greatest hn heq).2 f hm
    omega

/-! ## Ads queued together -/

variable (reporter limit) in
theorem play_prefix (as bs : List Act) :
    (play reporter limit as).history <+: (play reporter limit (as ++ bs)).history := by
  induction bs using List.reverseRecOn with
  | nil => simp
  | append_singleton bs b ih =>
    obtain ⟨notes, ha⟩ := act_acted (play_inv reporter limit (as ++ bs)) b
    rw [← List.append_assoc, play_snoc, ha.history]
    exact ih.trans (List.prefix_append _ _)

/-- a closed guard stays closed -/
theorem act_guards {m : Machine} (h : Inv reporter limit m) (a : Act) {i : Nat} (hi : i < m.guards.length) :
    i < (m.act reporter limit a).guards.length ∧
      ((m.act reporter limit a).guards[i]? = some true → m.guards[i]? = some true) := by
  cases a with
  | enqueue ad => exact ⟨hi, id⟩
  | openSection =>
    refine ⟨by simp [act, openSection]; omega, fun ho => ?_⟩
    rwa [act, openSection, List.getElem?_append_left hi] at ho
  | closeSection j =>
    simp only [act, closeSection]
    split_ifs
    · refine ⟨by simpa [adopt] using hi, fun ho => ?_⟩
      simp only [adopt, List.getElem?_set] at ho
      split_ifs at ho with hj hlt
      · simp at ho
      · exact ho
    · exact ⟨hi, id⟩
  | beat b =>
    cases b with
    | moveTo time => exact ⟨hi, id⟩
    | turn =>
      rcases beat_turn_cases h.flagged with ⟨-, he⟩ | ⟨d, ht⟩
      · rw [he]; exact ⟨hi, id⟩
      · rw [ht.guards]; exact ⟨hi, id⟩

/-- nothing is handed over while no task takes a turn, nor while a section stays open -/
def Quiet (reporter : Reporter) (limit : Nat) (as mid : List Act) : Prop :=
  .beat .turn ∉ mid ∨ ∃ i : Nat, (play reporter limit as).guards[i]? = some true ∧
    (play reporter limit (as ++ mid)).guards[i]? = some true

theorem Quiet.init {as mid : List Act} {a : Act} (h : Quiet reporter limit as (mid ++ [a])) :
    Quiet reporter limit as mid ∧ (a = .beat .turn → true ∈ (play reporter limit (as ++ mid)).guards) := by
  rcases h with h | ⟨i, h1, h2⟩
  · simp only [List.mem_append, List.mem_singleton, not_or] at h
    exact ⟨Or.inl h.1, fun ha => absurd ha.symm h.2⟩
  · have hlen : ∀ bs, i < (play reporter limit (as ++ bs)).guards.length := by
      intro bs
      induction bs using List.reverseRecOn with
      | nil => simpa using (List.getElem?_eq_some_iff.1 h1).1
      | append_singleton bs b ih =>
        rw [← List.append_assoc, play_snoc]
        exact (act_guards (play_inv reporter limit _) b ih).1
    rw [← List.append_assoc, play_snoc] at h2
    have hopen := (act_guards (play_inv reporter limit _) a (hlen mid)).2 h2
    exact ⟨Or.inr ⟨i, h1, hopen⟩, fun _ => List.mem_of_getElem? hopen⟩

theorem handedIn_quiet {as mid : List Act} (h : Quiet reporter limit as mid) :
    handedIn (play reporter limit (as ++ mid)).history = handedIn (play reporter limit as).history := by
  induction mid using List.reverseRecOn with
  | nil => simp
  | append_singleton mid a ih =>
    obtain ⟨h1, h2⟩ := h.init
    obtain ⟨notes, ha⟩ := act_acted (play_inv reporter limit (as ++ mid)) a
    have hnone : handedIn notes = [] := by
      refine List.eq_nil_iff_forall_not_mem.2 fun e he => ?_
      obtain ⟨hturn, hclosed, -⟩ := ha.started e (mem_handedIn.1 he)
      exact hclosed (h2 hturn)
    rw [← List.append_assoc, play_snoc, ha.history, handedIn_append, hnone, List.append_nil, ih h1]

theorem Quiet.enqueue {as mid : List Act} (h : Quiet reporter limit as mid) (ad : AdRecord) :
    Quiet reporter limit as (mid ++ [.enqueue ad]) := by
  rcases h with h | ⟨i, h1, h2⟩
  · exact Or.inl (by simpa using h)
  · refine Or.inr ⟨i, h1, ?_⟩
    rw [← List.append_assoc, play_snoc]
    exact h2

/-- what is handed over has been queued -/
theorem handedIn_subset_queuedIn (acts : List Act) :
    handedIn (play reporter limit acts).history ⊆ queuedIn (play reporter limit acts).history := by
  intro e he
  have hp := (play_inv reporter limit acts).follows.perm
  simpa using hp.subset (List.mem_append_left _ he)

/-- of two ads queued together, in one section or with no turn in between, the later one is handed over first -/
theorem later_first {as mid bs : List Act} {ad₁ ad₂ : AdRecord}
    (hn : (adsIn (as ++ .enqueue ad₁ :: mid ++ .enqueue ad₂ :: bs)).length < UInt64.size)
    (hq : Quiet reporter limit as (.enqueue ad₁ :: mid)) {before after : List Note}
    (heq : (play reporter limit (as ++ .enqueue ad₁ :: mid ++ .enqueue ad₂ :: bs)).history =
      before ++ .started ⟨(adsIn as).length, ad₁⟩ :: after) :
    .started ⟨(adsIn (as ++ .enqueue ad₁ :: mid)).length, ad₂⟩ ∈ before := by
  set cs := as ++ .enqueue ad₁ :: mid
  have hsplit : cs ++ .enqueue ad₂ :: bs = cs ++ [.enqueue ad₂] ++ bs := by simp
  have hads : adsIn (cs ++ [.enqueue ad₂]) = adsIn cs ++ [ad₂] := by simp [adsIn, Act.ad?]
  have hlt : (adsIn as).length < (adsIn cs).length := by simp [cs, adsIn, Act.ad?]
  have hn' : (adsIn (cs ++ [.enqueue ad₂])).length < UInt64.size := by
    refine lt_of_le_of_lt ?_ hn
    rw [hsplit]
    simp [adsIn, Act.ad?]
  have hnas : (adsIn as).length < UInt64.size := by
    rw [hads, List.length_append] at hn'
    omega
  obtain ⟨late, hlate⟩ := play_prefix reporter limit (cs ++ [.enqueue ad₂]) bs
  rw [← hsplit] at hlate
  refine newer_first hn hlate.symm ?_ ?_ hlt heq
  · rw [queuedIn_play reporter limit hn', hads, mem_numbered]
    simp
  · -- the earlier one still waits: nothing has been handed over since it was queued
    rw [← mem_handedIn]
    intro he
    have hquiet : Quiet reporter limit as (.enqueue ad₁ :: mid ++ [.enqueue ad₂]) := hq.enqueue ad₂
    have hcs : cs ++ [.enqueue ad₂] = as ++ (.enqueue ad₁ :: mid ++ [.enqueue ad₂]) := by simp [cs]
    rw [hcs, handedIn_quiet hquiet] at he
    have hmem := handedIn_subset_queuedIn as he
    rw [queuedIn_play reporter limit hnas, mem_numbered] at hmem
    simp at hmem

/-- **Every ad once, the newest first.** Every run is a play. While the numbers of 64 bits last: the entries queued are the
ads in their order, numbered from zero, no two alike; those handed to the reporter and those that wait are exactly the
entries queued; what waits is in order of arrival, the newest on top, and so it was at every earlier point; whatever is
handed over has the greatest number of all that wait; and of two ads queued together, in one section or with no turn in
between, the later one goes first. -/
theorem newest_first (reporter : Reporter) (limit : Nat) :
    (∀ ops, ∃ acts, run reporter limit ops = play reporter limit acts ∧
      acts.filter Act.isCommand = ops.filterMap Op.act?) ∧
    ∀ acts, (adsIn acts).length < UInt64.size → let m := play reporter limit acts
      queuedIn m.history = numbered (adsIn acts) ∧ (queuedIn m.history).Nodup ∧
      (handedIn m.history ++ m.queue.stack.entries).Perm (queuedIn m.history) ∧
      m.queue.stack.entries = waitingAfter m.history ∧
      (∀ before after, m.history = before ++ after → (waitingAfter before).Pairwise fun e f => f.seq < e.seq) ∧
      (∀ before e after, m.history = before ++ .started e :: after →
        e ∈ waitingAfter before ∧ ∀ f ∈ waitingAfter before, f.seq ≤ e.seq) ∧
      ∀ as ad₁ mid ad₂ bs, acts = as ++ .enqueue ad₁ :: mid ++ .enqueue ad₂ :: bs →
        Quiet reporter limit as (.enqueue ad₁ :: mid) →
        ∀ before after, m.history = before ++ .started ⟨(adsIn as).length, ad₁⟩ :: after →
          .started ⟨(adsIn (as ++ .enqueue ad₁ :: mid)).length, ad₂⟩ ∈ before := by
  refine ⟨run_eq_play reporter limit, ?_⟩
  intro acts hn m
  have hinv := play_inv reporter limit acts
  have hq : queuedIn m.history = numbered (adsIn acts) := queuedIn_play reporter limit hn
  refine ⟨hq, ?_, ?_, hinv.follows.waitingAfter.symm, ?_, ?_, ?_⟩
  · rw [hq]
    refine (numbered_increasing _).imp ?_
    rintro e f hlt rfl
    exact lt_irrefl _ hlt
  · simpa using hinv.follows.perm
  · intro before after heq
    exact waitingAfter_ordered hn heq
  · intro before e after heq
    exact started_greatest hn heq
  · rintro as ad₁ mid ad₂ bs rfl hquiet before after heq
    exact later_first hn hquiet heq

/-- two ads queued in one section, and the turn of the drain that its closing starts -/
def twoTogether : List Act :=
  [.openSection, .enqueue (sampleRecord "a"), .enqueue (sampleRecord "b"), .closeSection 0, .beat .turn]

theorem newest_first_two : (adsIn twoTogether).length < UInt64.size ∧
    handedIn (play Reporter.prompt 30000 twoTogether).history = [⟨1, sampleRecord "b"⟩, ⟨0, sampleRecord "a"⟩] ∧
    (handedIn (play Reporter.prompt 30000 twoTogether).history ++
      (play Reporter.prompt 30000 twoTogether).queue.stack.entries).Perm
        (queuedIn (play Reporter.prompt 30000 twoTogether).history) :=
  ⟨by decide, by cbv, ((newest_first Reporter.prompt 30000).2 twoTogether (by decide)).2.2.1⟩

end Machine

end AdConfirm.Dispatch
