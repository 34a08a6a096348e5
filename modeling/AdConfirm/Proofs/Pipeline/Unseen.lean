import AdConfirm.Proofs.Pipeline.Lockstep

/-!
Documents that come too late are not seen.

The document of an attempt that is overtaken before it ends gets nowhere: not into its tab, whether or not a newer attempt is
under way there, nor into an answer or a call of the reporter. So two runs that differ in such documents alone cannot be told
apart by anything but what the journal tells of the documents themselves.

- `Indistinct`: nothing that is seen of the service tells two pipelines apart.
- `late_documents_unseen`: two runs with the same operations but for documents cannot be told apart, neither after an operation
  nor after an event in the middle of one, if only attempts that were overtaken were delivered different documents.
-/

namespace AdConfirm.Pipeline

open AdConfirm.Tab (Ticket)

/-- what the journal tells of the queue: what was put into it, and the calls of the reporter, each with its time -/
def dispatched (p : Pipeline) : List (Nat × Dispatch.Note) :=
  p.journal.filterMap fun n =>
    match n.2 with
    | .dispatch d => some (n.1, d)
    | _ => none

/-- at the same time, the two have the same answers, the same ads and the same line in every tab, and the same queue; the same
was put into it and handed to the reporter at the same times, and hooks were fired alike -/
structure Indistinct (p p' : Pipeline) : Prop where
  time : p.agenda.now = p'.agenda.now
  answers : p.requests = p'.requests
  ads (tab : String) : (p.sessions.slot tab).ads = (p'.sessions.slot tab).ads
  waiting (tab : String) : p.line tab = p'.line tab
  queue : p.queue = p'.queue
  dispatched : p.dispatched = p'.dispatched
  hooks : p.hooks = p'.hooks

variable {x : Setup} {p p' : Pipeline}

/-- No erasure takes away what the journal tells of the queue. -/
theorem Erasure.erase_dispatched (v : Erasure) (p : Pipeline) : (v.erase p).dispatched = p.dispatched := by
  unfold dispatched erase
  rw [List.filterMap_filterMap]
  refine List.filterMap_congr fun n _ => ?_
  obtain ⟨time, n⟩ := n
  cases hforeign : n.isForeign with
  | false => rw [v.own n hforeign, Option.map_some, Option.bind_some]
  | true =>
    have hnone : ∀ {m : Note}, m.isForeign = true → (match m with | .dispatch d => some (time, d) | _ => none) = none := by
      intro m hm
      cases m <;> first | rfl | cases hm
    rw [hnone hforeign]
    cases hnote : v.note n with
    | none => rfl
    | some m => exact hnone (v.foreign n m hforeign hnote)

/-- What may be erased is not seen. -/
theorem Indistinct.of_erase (v : Erasure) (h : v.erase p = v.erase p') : Indistinct p p' where
  time := by rw [← v.now p.agenda, ← v.now p'.agenda]; exact (congrArg (·.agenda.now) h :)
  answers := (congrArg Pipeline.requests h :)
  ads tab := (congrArg (fun q : Pipeline => (q.sessions.slot tab).ads) h :)
  waiting tab := (congrArg (fun q : Pipeline => q.line tab) h :)
  queue := (congrArg Pipeline.queue h :)
  dispatched := by rw [← v.erase_dispatched p, ← v.erase_dispatched p', h]
  hooks := (congrArg Pipeline.hooks h :)

theorem Indistinct.of_erased (h : p.erased = p'.erased) : Indistinct p p' :=
  .of_erase documents (erased_eq ▸ h)

section Runs

variable {c : Policy.Center} {capacity : Option Nat} {ops ops' : List Op}

/-- Nothing leaks if only attempts that were overtaken were delivered different documents. -/
theorem not_leaked (hlate : ∀ t page page', Delivered (run x (start c capacity) ops) t page →
      Delivered (run x (start c capacity) ops') t page' → page ≠ page' → Overtaken x (start c capacity) ops t) :
    ¬ Leaked (run x (start c capacity) ops) (run x (start c capacity) ops') := by
  rintro ⟨t, page, page', hne, hpage, hpage', time, ads, ws, hstored⟩
  obtain ⟨es, dropped, hrecounts, hover⟩ := hlate t page page' hpage hpage' hne
  exact hrecounts.not_stored_of_overtaken hover ads ws hstored

/-- **Documents of attempts that were overtaken make no difference.** -/
theorem late_documents_unseen (x : Setup) (c : Policy.Center) (capacity : Option Nat) (ops ops' : List Op)
    (same : ops.map Op.bare = ops'.map Op.bare)
    (hlate : ∀ t page page', Delivered (run x (start c capacity) ops) t page →
      Delivered (run x (start c capacity) ops') t page' → page ≠ page' → Overtaken x (start c capacity) ops t) :
    (∀ n, Indistinct (run x (start c capacity) (ops.take n)) (run x (start c capacity) (ops'.take n))) ∧
      ∃ es es', Retells x (start c capacity) ops es ∧ Retells x (start c capacity) ops' es' ∧
        es.map Event.bare = es'.map Event.bare ∧
        ∀ n, Indistinct (play x (start c capacity) (es.take n)) (play x (start c capacity) (es'.take n)) := by
  have hnot := not_leaked hlate
  constructor
  · intro n
    have htake : (ops.take n).map Op.bare = (ops'.take n).map Op.bare := by rw [List.map_take, List.map_take, same]
    rcases run_lockstep (x := x) (p := start c capacity) rfl htake with ⟨es, es', h, h', hside⟩ | hleak
    · rw [h.run, h'.run]
      exact .of_erased hside.alike_after
    · -- what leaks in the beginning of the runs has leaked at their ends
      have hend := hleak.runs (x := x) (ops.drop n) (ops'.drop n)
      have hwhole (ops : List Op) :
          run x (run x (start c capacity) (ops.take n)) (ops.drop n) = run x (start c capacity) ops := by
        rw [run, run, ← List.foldl_append, List.take_append_drop]
        rfl
      rw [hwhole, hwhole] at hend
      exact absurd hend hnot
  · rcases run_lockstep (x := x) (p := start c capacity) rfl same with ⟨es, es', h, h', hside⟩ | hleak
    · exact ⟨es, es', h, h', hside.same, fun n => .of_erased (hside.take n)⟩
    · exact absurd hleak hnot

end Runs

/-! ## A page that comes after a reset -/

/-- a page is fetched, and its tab is reset and asked for an ad of it before it comes -/
def resetInFlight (page : Option WebPage) : List Op :=
  [.setPage "tab" page (.after 100),
    .ingest "tab" ⟨"https".toList, [], [], some (.domain "search.brave.com".toList), none, .segments [], none, none⟩ true,
    .settle, .reset "tab", .request "tab" "ad", .hook, .advance 100]

/-- the attempts of which the journal tells that they were delivered a document, or that there was none -/
def deliveries (p : Pipeline) : List Ticket :=
  p.chronicle.filterMap fun n =>
    match n.2 with
    | .fetched t _ => some t
    | _ => none

/-- the attempts of which the journal tells that they ended too late -/
def lateEnds (p : Pipeline) : List Ticket :=
  p.chronicle.filterMap fun n =>
    match n.2 with
    | .late t => some t
    | _ => none

theorem Delivered.mem_deliveries {t : Ticket} {page : Option WebPage} (h : Delivered p t page) : t ∈ p.deliveries := by
  obtain ⟨time, hpage⟩ := h
  exact List.mem_filterMap.2 ⟨_, hpage, rfl⟩

theorem mem_lateEnds {t : Ticket} (h : t ∈ p.lateEnds) : ∃ time, (time, .late t) ∈ p.chronicle := by
  obtain ⟨⟨time, n⟩, hn, hlate⟩ := List.mem_filterMap.1 h
  cases n with
  | late u =>
    obtain rfl : u = t := Option.some.inj hlate
    exact ⟨time, hn⟩
  | _ => cases hlate

theorem late_documents_unseen_after_reset :
    let x : Setup := .withoutPolicy .live .prompt
    let p₀ := start (.ofSnapshot .start) none
    let page := samplePage [sampleAd "ad"]
    (run x p₀ (resetInFlight (some page))).deliveries = [⟨"tab", 1⟩] ∧
      (run x p₀ (resetInFlight none)).deliveries = [⟨"tab", 1⟩] ∧
      ∀ n, Indistinct (run x p₀ ((resetInFlight (some page)).take n)) (run x p₀ ((resetInFlight none).take n)) := by
  intro x p₀ page
  refine ⟨by decide +kernel, by decide +kernel,
    (late_documents_unseen x (.ofSnapshot .start) none (resetInFlight (some page)) (resetInFlight none) rfl ?_).1⟩
  intro t _ _ hpage _ _
  have hends : (run x p₀ (resetInFlight (some page))).deliveries ⊆ (run x p₀ (resetInFlight (some page))).lateEnds := by
    decide +kernel
  obtain ⟨time, hlate⟩ := mem_lateEnds (hends hpage.mem_deliveries)
  obtain ⟨es, dropped, hrecounts⟩ := run_recounts x (.ofSnapshot .start) none (resetInFlight (some page))
  exact ⟨es, dropped, hrecounts, hrecounts.overtaken_of_late hlate⟩

end AdConfirm.Pipeline
