import AdConfirm.Proofs.History
import AdConfirm.Proofs.Pipeline.AdMoves
import AdConfirm.Proofs.Table

/-!
A ledger of all ads ever stored.

The pipeline keeps one map of ads per tab and erases from it what goes to the queue, so nothing in it tells where a record
came from and where it went. The ledger is kept beside it: every record that an accepted ingestion stores gets a copy of its
own there, numbered by the ingestion, and the copy is always in one place.

- `post`: what an event does to the ledger.
- `Books`: the ledger agrees with the pipeline, and every copy is in exactly one place.
- `books_play`: it does so in every play.
- `mem_stored`, `mem_discarded`: where copies come from, and which of them are thrown away.
-/

namespace AdConfirm.Pipeline

open AdConfirm.Tab (Ticket Waiting Sessions)

/-- a record as an accepted ingestion stored it under an id of its tab; ingestions are numbered from zero -/
structure Copy where
  ingestion : Nat
  tab : String
  id : String
  ad : AdRecord
  deriving DecidableEq

/-- whether the copy was stored under the id of the tab -/
def Copy.isUnder (tab id : String) (c : Copy) : Bool := c.tab = tab ∧ c.id = id

/-- all copies ever stored, and where they are: held by their tabs, queued, or discarded -/
structure Ledger where
  ingestions : Nat
  stored : List Copy
  held : List Copy
  queued : List Copy
  discarded : List Copy

namespace Ledger

def empty : Ledger := ⟨0, [], [], [], []⟩

/-- the copies of the ads of one ingestion -/
def copies (l : Ledger) (tab : String) (ads : AdMap) : List Copy := ads.entries.map fun e => ⟨l.ingestions, tab, e.1, e.2⟩

def store (l : Ledger) (tab : String) (ads : AdMap) : Ledger :=
  { l with ingestions := l.ingestions + 1, stored := l.stored ++ l.copies tab ads, held := l.held ++ l.copies tab ads }

def discard (l : Ledger) (tab : String) : Ledger :=
  { l with held := l.held.filter (·.tab ≠ tab), discarded := l.discarded ++ l.held.filter (·.tab = tab) }

/-- queues what the tab holds under the id -/
def handOver (l : Ledger) (tab id : String) : Ledger :=
  { l with held := l.held.filter (!·.isUnder tab id), queued := l.queued ++ l.held.filter (·.isUnder tab id) }

end Ledger

/-- enters an event into the ledger. An accepted completion discards what its tab still holds and stores its ads, of which
those who waited get theirs. -/
def post (x : Setup) (p : Pipeline) (l : Ledger) : Event → Ledger
  | .finish t ads =>
    if p.sessions.isCurrent t then
      let l := (l.discard t.tab).store t.tab ads
      if x.gate.reports p.center then (p.line t.tab).foldl (fun l w => l.handOver t.tab w.ad) l else l
    else l
  | .request tab id => if x.gate.reports p.center then l.handOver tab id else l
  | .resolve tab id => l.handOver tab id
  | .reset tab => l.discard tab
  | _ => l

def postAll (x : Setup) : Pipeline → Ledger → List Event → Ledger
  | _, l, [] => l
  | p, l, e :: es => postAll x (perform x p e) (post x p l e) es

/-- the ledger agrees with the pipeline, and has every copy in one place -/
structure Books (l : Ledger) (p : Pipeline) : Prop where
  held : ∀ tab id ad, p.sessions.ad? tab id = some ad ↔ ∃ n, ⟨n, tab, id, ad⟩ ∈ l.held
  single : l.held.Pairwise fun c d => ¬ (c.tab = d.tab ∧ c.id = d.id)
  queued : p.queuedEntries.map (·.ad) = l.queued.map (·.ad)
  taken : p.takenAds = List.zipWith (fun c e => (c.tab, c.id, e.seq)) l.queued p.queuedEntries
  count : p.queue.counters.enqueued = p.queuedEntries.length
  waiting : p.queue.stack.entries.Sublist p.queuedEntries.reverse
  places : (l.held ++ l.queued ++ l.discarded).Perm l.stored
  distinct : l.stored.Nodup
  numbered : ∀ c ∈ l.stored, c.ingestion < l.ingestions

variable {x : Setup} {p q : Pipeline} {l : Ledger}

theorem postAll_snoc (p : Pipeline) (l : Ledger) (es : List Event) (e : Event) :
    postAll x p l (es ++ [e]) = post x (play x p es) (postAll x p l es) e := by
  induction es generalizing p l with
  | nil => rfl
  | cons f es ih => exact ih (perform x p f) (post x p l f)

theorem count_filter_add {α : Type} [DecidableEq α] (l : List α) (keep : α → Bool) (a : α) :
    (l.filter keep).count a + (l.filter fun b => !keep b).count a = l.count a := by
  rw [← List.count_append]
  exact (List.filter_append_perm keep l).count_eq a

/-! ## The ledger and the pipeline -/

namespace Ledger

theorem mem_copies {tab : String} {ads : AdMap} {c : Copy} :
    c ∈ l.copies tab ads ↔ c.ingestion = l.ingestions ∧ c.tab = tab ∧ ads.find? c.id = some c.ad := by
  obtain ⟨n, j, i, ad⟩ := c
  simp only [Ledger.copies, List.mem_map, Copy.mk.injEq, Prod.exists, Table.mem_entries_iff]
  constructor
  · rintro ⟨i', ad', hf, rfl, rfl, rfl, rfl⟩
    exact ⟨rfl, rfl, hf⟩
  · rintro ⟨rfl, rfl, hf⟩
    exact ⟨i, ad, hf, rfl, rfl, rfl, rfl⟩

theorem copies_single (l : Ledger) (tab : String) (ads : AdMap) :
    (l.copies tab ads).Pairwise fun c d => ¬ (c.tab = d.tab ∧ c.id = d.id) := by
  have hkeys := ads.nodup_keys
  rw [Table.keys, List.Nodup, List.pairwise_map] at hkeys
  rw [Ledger.copies, List.pairwise_map]
  exact hkeys.imp fun hne h => hne h.2

end Ledger

theorem books_start (c : Policy.Center) (capacity : Option Nat) : Books .empty (start c capacity) := by
  unfold start
  split_ifs <;>
  · refine ⟨fun tab id ad => ?_, .nil, rfl, rfl, rfl, .refl _, .refl _, List.nodup_nil, by simp [Ledger.empty]⟩
    simp [Sessions.ad?, Sessions.slot, Sessions.empty, Tab.Slot.fresh, Ledger.empty]

namespace Books

theorem kept (h : Books l p) (k : Kept p q) : Books l q where
  held tab id ad := by rw [k.ads, h.held]
  single := h.single
  queued := by rw [k.queued, h.queued]
  taken := by rw [k.taken, k.queued, h.taken]
  count := by rw [k.count, k.queued, h.count]
  waiting := by rw [k.queued]; exact k.rest.trans h.waiting
  places := h.places
  distinct := h.distinct
  numbered := h.numbered

/-- what a tab holds under an id is one copy of what it has there -/
theorem filter_isUnder (h : Books l p) (tab id : String) :
    (p.sessions.ad? tab id = none ∧ l.held.filter (·.isUnder tab id) = []) ∨
      ∃ n ad, p.sessions.ad? tab id = some ad ∧ l.held.filter (·.isUnder tab id) = [⟨n, tab, id, ad⟩] := by
  have hall : ∀ c ∈ l.held.filter (·.isUnder tab id), c ∈ l.held ∧ c.tab = tab ∧ c.id = id := fun c hc => by
    simpa [Copy.isUnder] using hc
  have hsingle := h.single.filter (·.isUnder tab id)
  cases hf : l.held.filter (·.isUnder tab id) with
  | nil =>
    refine .inl ⟨Option.eq_none_iff_forall_ne_some.2 fun ad had => ?_, rfl⟩
    obtain ⟨n, hn⟩ := (h.held tab id ad).1 had
    have hmem : (⟨n, tab, id, ad⟩ : Copy) ∈ l.held.filter (·.isUnder tab id) := by simp [Copy.isUnder, hn]
    simp [hf] at hmem
  | cons c rest =>
    obtain ⟨hc, rfl, rfl⟩ := hall c (by simp [hf])
    have hrest : rest = [] := by
      rw [hf, List.pairwise_cons] at hsingle
      refine List.eq_nil_iff_forall_not_mem.2 fun d hd => hsingle.1 d hd ?_
      obtain ⟨-, ht, hi⟩ := hall d (by simp [hf, hd])
      exact ⟨ht.symm, hi.symm⟩
    exact .inr ⟨c.ingestion, c.ad, (h.held c.tab c.id c.ad).2 ⟨_, hc⟩, by rw [hrest]⟩

theorem length_queued (h : Books l p) : l.queued.length = p.queuedEntries.length := by
  simpa using (congrArg List.length h.queued).symm

/-- A move is a copy handed over. -/
theorem moved (h : Books l p) {tab id : String} (m : Moved p tab id q) : Books (l.handOver tab id) q := by
  have hq := m.queuedEntries
  have ht := m.takenAds
  have hc := m.count
  refine ⟨fun j i ad => ?_, h.single.filter _, ?_, ?_, ?_, ?_, ?_, h.distinct, h.numbered⟩
  · rw [m.ads]
    by_cases hji : tab = j ∧ id = i
    · obtain ⟨rfl, rfl⟩ := hji
      simp [Ledger.handOver, Copy.isUnder]
    · have hn : ¬ j = tab ∨ ¬ i = id := not_and_or.1 fun hn => hji ⟨hn.1.symm, hn.2.symm⟩
      simp [Ledger.handOver, Copy.isUnder, hji, hn, h.held]
  · rw [hq, Ledger.handOver, List.map_append, List.map_append, h.queued]
    rcases h.filter_isUnder tab id with ⟨hads, hf⟩ | ⟨n, ad, hads, hf⟩
    · simp [hads, hf]
    · simp [hads, hf, Dispatch.Queue.entryOf]
  · rw [hq, ht, Ledger.handOver, List.zipWith_append h.length_queued, h.taken]
    rcases h.filter_isUnder tab id with ⟨hads, hf⟩ | ⟨n, ad, hads, hf⟩
    · simp [hads, hf]
    · simp [hads, hf]
  · rw [hc, hq, h.count, List.length_append]
    cases p.sessions.ad? tab id <;> rfl
  · rw [m.stack, hq, List.reverse_append]
    refine List.Sublist.append ?_ h.waiting
    cases p.sessions.ad? tab id <;> exact .refl _
  · refine List.Perm.trans (List.perm_iff_count.2 fun c => ?_) h.places
    have hsplit := count_filter_add l.held (·.isUnder tab id) c
    simp only [Ledger.handOver, List.count_append]
    omega

/-- A tab that has nothing under the id has no copy to hand over. -/
theorem handOver_of_none (h : Books l p) {tab id : String} (hn : p.sessions.ad? tab id = none) :
    l.handOver tab id = l := by
  rcases h.filter_isUnder tab id with ⟨-, hf⟩ | ⟨n, ad, hads, -⟩
  · have hkeep : l.held.filter (fun c => !c.isUnder tab id) = l.held := by
      rw [List.filter_eq_self]
      intro c hc
      simpa using List.filter_eq_nil_iff.1 hf c hc
    simp [Ledger.handOver, hf, hkeep]
  · rw [hn] at hads
    cases hads

/-- A tab that is forgotten has all its copies discarded. -/
theorem forgotten (h : Books l p) {tab : String}
    (hads : ∀ j i, q.sessions.ad? j i = if tab = j then none else p.sessions.ad? j i)
    (hnotes : q.adNotes = p.adNotes) (hqueue : q.queue = p.queue) : Books (l.discard tab) q := by
  have hq : q.queuedEntries = p.queuedEntries := by rw [queuedEntries, queuedEntries, hnotes]
  have ht : q.takenAds = p.takenAds := by rw [takenAds, takenAds, hnotes]
  refine ⟨fun j i ad => ?_, h.single.filter _, hq ▸ h.queued, ?_, ?_, ?_, ?_, h.distinct, h.numbered⟩
  · rw [hads]
    by_cases hj : tab = j
    · simp [Ledger.discard, hj]
    · simp [Ledger.discard, hj, Ne.symm hj, h.held]
  · rw [ht, hq, h.taken]
    rfl
  · rw [hqueue, hq, h.count]
  · rw [hqueue, hq]
    exact h.waiting
  · refine List.Perm.trans (List.perm_iff_count.2 fun c => ?_) h.places
    have hsplit := count_filter_add l.held (fun c => decide (c.tab = tab)) c
    simp only [Ledger.discard, List.count_append, ne_eq, decide_not]
    omega

/-- A tab that holds nothing gets copies of the ads of an ingestion. -/
theorem stored (h : Books l p) {tab : String} {ads : AdMap} (hnone : ∀ i, p.sessions.ad? tab i = none)
    (hads : ∀ j i, q.sessions.ad? j i = if tab = j then ads.find? i else p.sessions.ad? j i)
    (hnotes : q.adNotes = p.adNotes) (hqueue : q.queue = p.queue) : Books (l.store tab ads) q := by
  have hq : q.queuedEntries = p.queuedEntries := by rw [queuedEntries, queuedEntries, hnotes]
  have ht : q.takenAds = p.takenAds := by rw [takenAds, takenAds, hnotes]
  have hempty : ∀ c ∈ l.held, c.tab ≠ tab := by
    rintro c hmem rfl
    have hsome := (h.held c.tab c.id c.ad).2 ⟨_, hmem⟩
    rw [hnone] at hsome
    cases hsome
  refine ⟨fun j i ad => ?_, ?_, hq ▸ h.queued, ?_, ?_, ?_, ?_, ?_, ?_⟩
  · rw [hads]
    simp only [Ledger.store, List.mem_append, Ledger.mem_copies, exists_or]
    by_cases hj : tab = j
    · subst hj
      simp [← h.held, hnone]
    · simp [hj, Ne.symm hj, h.held]
  · refine List.pairwise_append.2 ⟨h.single, l.copies_single tab ads, fun c hmem d hd heq => hempty c hmem ?_⟩
    exact heq.1.trans (Ledger.mem_copies.1 hd).2.1
  · rw [ht, hq, h.taken]
    rfl
  · rw [hqueue, hq, h.count]
  · rw [hqueue, hq]
    exact h.waiting
  · refine List.perm_iff_count.2 fun c => ?_
    have hplaces := h.places.count_eq c
    simp only [Ledger.store, List.count_append] at hplaces ⊢
    omega
  · refine List.nodup_append.2 ⟨h.distinct, (l.copies_single tab ads).imp ?_, ?_⟩
    · rintro c d hne rfl
      exact hne ⟨rfl, rfl⟩
    · rintro c hmem d hd rfl
      exact absurd (Ledger.mem_copies.1 hd).1 (Nat.ne_of_lt (h.numbered c hmem))
  · intro c hmem
    rcases List.mem_append.1 hmem with hmem | hmem
    · exact Nat.lt_succ_of_lt (h.numbered c hmem)
    · exact (Ledger.mem_copies.1 hmem).1 ▸ Nat.lt_succ_self _

/-- Those who waited get copies handed over if views are reported. -/
theorem answered (h : Books l p) (tab : String) (ws : List Waiting) :
    Books (ws.foldl (fun l w => l.handOver tab w.ad) l) (ws.foldl (answer true tab) p) := by
  induction ws generalizing p l with
  | nil => exact h
  | cons w ws ih =>
    obtain ⟨q, hm, hk, -⟩ := answer_moved p tab w
    exact ih ((h.moved hm).kept hk)

end Books

theorem books_stocked (h : Books l p) {t : Ticket} (ads : AdMap) (hc : p.sessions.isCurrent t = true) :
    Books ((l.discard t.tab).store t.tab ads) (stocked p t ads) := by
  have hforgotten : Books (l.discard t.tab) { p with sessions := (p.sessions.reset t.tab).1 } :=
    h.forgotten (Sessions.reset_ad? _ _) rfl rfl
  refine hforgotten.stored (fun i => ?_) (fun j i => ?_) (stocked_quiet p t ads).adNotes rfl
  · rw [Sessions.reset_ad?, if_pos rfl]
  · rw [Sessions.ad?, stocked_slot ads hc, Sessions.reset_ad?]
    split_ifs <;> rfl

/-- What an event does to the pipeline, it does to the ledger. -/
theorem books_perform (h : Books l p) (e : Event) : Books (post x p l e) (perform x p e) := by
  cases e with
  | request tab id =>
    cases request_requested x p tab id with
    | refused reports _ quiet =>
      simp only [post, reports, Bool.false_eq_true, if_false]
      exact h.kept quiet.kept
    | waits reports missing _ quiet =>
      simp only [post, reports, if_true]
      rw [h.handOver_of_none missing]
      exact h.kept quiet.kept
    | answered reports _ moved =>
      simp only [post, reports, if_true]
      exact h.moved moved
  | resolve tab id => exact h.moved (resolve_moved p tab id)
  | reset tab =>
    have hquiet := reset_quiet p tab
    have hforgotten : Books (l.discard tab) { p with sessions := (p.sessions.reset tab).1 } :=
      h.forgotten (Sessions.reset_ad? _ _) rfl rfl
    exact hforgotten.kept hquiet.kept
  | finish t ads =>
    cases hc : p.sessions.isCurrent t with
    | false =>
      simp only [post, hc, Bool.false_eq_true, if_false]
      exact h.kept (finish_quiet ads hc).kept
    | true =>
      obtain ⟨q, hq, -, hend⟩ := finish_stages (x := x) ads hc
      have hstocked := (books_stocked h ads hc).kept hq.kept
      simp only [post, hc, if_true]
      cases hr : x.gate.reports p.center with
      | false =>
        rw [hr] at hend
        exact (hstocked.kept (answer_fold_kept q t.tab _)).kept hend.kept
      | true =>
        rw [hr] at hend
        exact (hstocked.answered t.tab _).kept hend.kept
  | _ => exact h.kept (perform_quiet rfl).kept

theorem books_play (c : Policy.Center) (capacity : Option Nat) (es : List Event) :
    Books (postAll x (start c capacity) .empty es) (play x (start c capacity) es) := by
  induction es using List.reverseRecOn with
  | nil => exact books_start c capacity
  | append_singleton es e ih =>
    rw [postAll_snoc, play_snoc]
    exact books_perform ih e

/-! ## Where copies come from, and which are thrown away -/

/-- the copy is one of those that an accepted completion stores -/
def Stocks (x : Setup) (p : Pipeline) (c : Copy) (before : List Event) (e : Event) : Prop :=
  ∃ t ads, e = .finish t ads ∧ (play x p before).sessions.Accepts t ads ∧ t.tab = c.tab ∧ ads.find? c.id = some c.ad ∧
    c.ingestion = (postAll x p .empty before).ingestions

/-- the copy is held by its tab still, when the tab is reset or its ads are replaced by those of an accepted completion -/
def Discards (x : Setup) (p : Pipeline) (c : Copy) (before : List Event) (e : Event) : Prop :=
  c ∈ (postAll x p .empty before).held ∧
    (e = .reset c.tab ∨ ∃ t ads, e = .finish t ads ∧ (play x p before).sessions.Accepts t ads ∧ t.tab = c.tab)

theorem accepts_iff_isCurrent {s : Sessions} {t : Ticket} {ads : AdMap} : s.Accepts t ads ↔ s.isCurrent t = true := by
  rw [Sessions.accepts_iff, Sessions.isCurrent_iff]

theorem foldl_handOver (l : Ledger) (tab : String) (ws : List Waiting) :
    (ws.foldl (fun l w => l.handOver tab w.ad) l).stored = l.stored ∧
      (ws.foldl (fun l w => l.handOver tab w.ad) l).discarded = l.discarded := by
  induction ws generalizing l with
  | nil => exact ⟨rfl, rfl⟩
  | cons w ws ih => exact ih (l.handOver tab w.ad)

/-- what an event stores and discards -/
theorem post_cases (x : Setup) (p : Pipeline) (l : Ledger) (e : Event) :
    (∃ t ads, e = .finish t ads ∧ p.sessions.Accepts t ads ∧ (post x p l e).stored = l.stored ++ l.copies t.tab ads ∧
      (post x p l e).discarded = l.discarded ++ l.held.filter (·.tab = t.tab)) ∨
    (∃ tab, e = .reset tab ∧ (post x p l e).stored = l.stored ∧
      (post x p l e).discarded = l.discarded ++ l.held.filter (·.tab = tab)) ∨
    ((∀ t ads, e = .finish t ads → ¬ p.sessions.Accepts t ads) ∧ (∀ tab, e ≠ .reset tab) ∧
      (post x p l e).stored = l.stored ∧ (post x p l e).discarded = l.discarded) := by
  cases e with
  | finish t ads =>
    by_cases ha : p.sessions.Accepts t ads
    · have hfold := foldl_handOver ((l.discard t.tab).store t.tab ads) t.tab (p.line t.tab)
      refine .inl ⟨t, ads, rfl, ha, ?_⟩
      simp only [post, accepts_iff_isCurrent.1 ha, if_true]
      split_ifs
      · exact hfold
      · exact ⟨rfl, rfl⟩
    · have hc : ¬ p.sessions.isCurrent t = true := fun hc => ha (accepts_iff_isCurrent.2 hc)
      refine .inr (.inr ⟨?_, by simp, by simp [post, hc], by simp [post, hc]⟩)
      rintro _ _ heq
      cases heq
      exact ha
  | reset tab => exact .inr (.inl ⟨tab, rfl, rfl, rfl⟩)
  | request tab id =>
    refine .inr (.inr ⟨by simp, by simp, ?_, ?_⟩) <;>
    · simp only [post]
      split_ifs <;> rfl
  | _ => exact .inr (.inr ⟨by simp, by simp, rfl, rfl⟩)

/-- A copy was stored by an accepted completion, or it is none. -/
theorem mem_stored (x : Setup) (p : Pipeline) (es : List Event) (c : Copy) :
    c ∈ (postAll x p .empty es).stored ↔ Ever (Stocks x p c) es := by
  induction es using List.reverseRecOn with
  | nil => exact ⟨fun h => absurd h (by simp [postAll, Ledger.empty]), fun h => absurd h not_ever_nil⟩
  | append_singleton es e ih =>
    rw [ever_snoc, ← ih, postAll_snoc]
    rcases post_cases x (play x p es) (postAll x p .empty es) e with
      ⟨t, ads, rfl, ha, hs, -⟩ | ⟨tab, rfl, hs, -⟩ | ⟨hn, -, hs, -⟩
    · have hstocks : Stocks x p c es (.finish t ads) ↔ c ∈ (postAll x p .empty es).copies t.tab ads := by
        rw [Ledger.mem_copies]
        constructor
        · rintro ⟨_, _, heq, -, htab, hf, hi⟩
          cases heq
          exact ⟨hi, htab.symm, hf⟩
        · rintro ⟨hi, htab, hf⟩
          exact ⟨t, ads, rfl, ha, htab.symm, hf, hi⟩
      rw [hs, hstocks, List.mem_append, or_comm]
    · rw [hs]
      exact (or_iff_right (by simp [Stocks])).symm
    · rw [hs]
      refine (or_iff_right ?_).symm
      rintro ⟨t, ads, rfl, ha, -⟩
      exact hn t ads rfl ha

/-- A copy was discarded when its tab was reset or its ads were replaced, or it is not. -/
theorem mem_discarded (x : Setup) (p : Pipeline) (es : List Event) (c : Copy) :
    c ∈ (postAll x p .empty es).discarded ↔ Ever (Discards x p c) es := by
  induction es using List.reverseRecOn with
  | nil => exact ⟨fun h => absurd h (by simp [postAll, Ledger.empty]), fun h => absurd h not_ever_nil⟩
  | append_singleton es e ih =>
    rw [ever_snoc, ← ih, postAll_snoc]
    rcases post_cases x (play x p es) (postAll x p .empty es) e with
      ⟨t, ads, rfl, ha, -, hd⟩ | ⟨tab, rfl, -, hd⟩ | ⟨hn, hr, -, hd⟩
    · have hdiscards : Discards x p c es (.finish t ads) ↔
          c ∈ (postAll x p .empty es).held.filter (·.tab = t.tab) := by
        simp only [Discards, List.mem_filter, decide_eq_true_eq, reduceCtorEq, false_or]
        refine and_congr_right fun _ => ⟨?_, fun htab => ⟨t, ads, rfl, ha, htab.symm⟩⟩
        rintro ⟨_, _, heq, -, htab⟩
        cases heq
        exact htab.symm
      rw [hd, hdiscards, List.mem_append, or_comm]
    · have hdiscards : Discards x p c es (.reset tab) ↔ c ∈ (postAll x p .empty es).held.filter (·.tab = tab) := by
        simp [Discards, eq_comm]
      rw [hd, hdiscards, List.mem_append, or_comm]
    · rw [hd]
      refine (or_iff_right ?_).symm
      rintro ⟨-, rfl | ⟨t, ads, rfl, ha, -⟩⟩
      · exact hr c.tab rfl
      · exact hn t ads rfl ha

end AdConfirm.Pipeline
