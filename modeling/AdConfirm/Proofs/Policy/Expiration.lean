import AdConfirm.Proofs.History
import AdConfirm.Proofs.Policy.Rebuild

/-!
Overrides that have expired, and when they are dropped.

An override that has expired stays in the store until someone looks: its timer, or who asks for the active ones. So what is stored
depends on who has asked, and when. What is active does not: under each path it is what was inserted last, unless that was
removed or its deadline has come.

- `after`: a store after some calls. `Between`: calls in the order of time.
- `LastInserted`: what the history of a store says of its overrides.
- `find?_call_iff`: what a call leaves in the store.
- `lastInserted_of_held`, `held_of_lastInserted`: what is held was inserted last, and that is held while it is live.
- `held_iff_undropped`: of what is live, a store holds as much as one that never drops anything.
- `active_exactly_live`: what is active and what expires, after whatever calls.
-/

namespace AdConfirm.Policy.Overrides

/-- what can be asked of a store -/
inductive Op where
  | insert (path : String) (o : Override)
  | expire (path : String)
  | remove (path : String)
  | active

/-- an operation at its time -/
structure Call where
  now : Nat
  op : Op

/-- the operation inserts an override or removes one -/
def Op.alters : Op → Bool
  | .insert _ _ => true
  | .remove _ => true
  | _ => false

def call (s : Overrides) (c : Call) : Overrides :=
  match c.op with
  | .insert path o => s.insert path o
  | .expire path => (s.expire c.now path).1
  | .remove path => (s.remove path).1
  | .active => (s.active c.now).1

/-- a store after some calls, empty at first -/
def after (calls : List Call) : Overrides := calls.foldl call Table.empty

/-- the calls go forward in time, from one moment to another -/
def Between (start : Nat) : List Call → Nat → Prop
  | [], stop => start ≤ stop
  | c :: calls, stop => start ≤ c.now ∧ Between c.now calls stop

instance decidableBetween : (start : Nat) → (calls : List Call) → (stop : Nat) → Decidable (Between start calls stop)
  | start, [], stop => inferInstanceAs (Decidable (start ≤ stop))
  | start, c :: calls, stop =>
    have := decidableBetween c.now calls stop
    inferInstanceAs (Decidable (start ≤ c.now ∧ Between c.now calls stop))

/-- the insertions and removals among the calls, in their order -/
def alterations (calls : List Call) : List Op := (calls.map Call.op).filter Op.alters

/-- one alteration of a store that drops nothing by itself -/
def alter (s : Overrides) : Op → Overrides
  | .insert path o => s.insert path o
  | .remove path => s.erase path
  | _ => s

/-- the store that some alterations would leave if nothing were ever dropped for having expired -/
def undropped (ops : List Op) : Overrides := ops.foldl alter Table.empty

def Inserts (path : String) (o : Override) (_ : List Call) (c : Call) : Prop := c.op = .insert path o

/-- the call inserts an override under the path, or removes the one that is there -/
def Displaces (path : String) (before : List Call) (c : Call) : Prop :=
  (∃ o, c.op = .insert path o) ∨ c.op = .remove path ∧ ((after before).remove path).2.isSome = true

/-- the override was the last one to be inserted under the path, and was not removed since -/
def LastInserted (path : String) (o : Override) (calls : List Call) : Prop := Since (Inserts path o) (Displaces path) calls

/-- none of the calls inserts an override under the path -/
def NoneInserts (path : String) (calls : List Call) : Prop := ∀ c ∈ calls, ∀ o, c.op ≠ .insert path o

variable {s : Overrides} {calls more : List Call} {c : Call} {start now later : Nat} {path : String} {o : Override}

theorem after_snoc (calls : List Call) (c : Call) : after (calls ++ [c]) = (after calls).call c := by
  simp [after]

/-! ## Time -/

theorem between_snoc : Between start (calls ++ [c]) now ↔ Between start calls c.now ∧ c.now ≤ now := by
  induction calls generalizing start with
  | nil => rfl
  | cons b calls ih => simp [Between, ih, and_assoc]

/-- What is live was live before. -/
theorem isLive_of_le (h : o.isLive later = true) (hle : now ≤ later) : o.isLive now = true := by
  unfold Override.isLive at h ⊢
  split at h
  · rfl
  · simp only [decide_eq_true_eq] at h ⊢
    omega

theorem isLive_iff : o.isLive now = true ↔ ∀ d, o.deadline = some d → now < d := by
  unfold Override.isLive
  split <;> simp_all

theorem Between.le (h : Between start calls now) : start ≤ now := by
  induction calls generalizing start with
  | nil => exact h
  | cons c calls ih => exact Nat.le_trans h.1 (ih h.2)

/-! ## One call -/

/-- After a call the store holds what is inserted, and what it held before: all but what is displaced, and what has expired and
is looked at. -/
theorem find?_call_iff :
    (s.call c).find? path = some o ↔
      c.op = .insert path o ∨
        s.find? path = some o ∧ (∀ o', c.op ≠ .insert path o') ∧ c.op ≠ .remove path ∧
          (c.op = .expire path ∨ c.op = .active → o.isLive c.now = true) := by
  obtain ⟨t, op⟩ := c
  cases op with
  | insert q o' =>
    by_cases hq : q = path
    · subst hq
      simp [call, Table.find?_insert]
    · simp [call, Table.find?_insert, hq]
  | remove q =>
    by_cases hq : q = path
    · subst hq
      simp [call, remove, Table.find?_erase]
    · simp [call, remove, Table.find?_erase, hq]
  | active => simp [call, active, find?_purge_eq_some_iff]
  | expire q =>
    by_cases hq : q = path
    · subst hq
      cases ho : s.find? q with
      | none => simp [call, expire, ho]
      | some o' => by_cases hlive : o'.isLive t = true <;> simp [call, expire, ho, hlive, Table.find?_erase] <;> grind
    · have hsame : (s.expire t q).1.find? path = s.find? path := by
        unfold expire
        split
        · split
          · rfl
          · rw [Table.find?_erase, if_neg hq]
        · rfl
      simp [call, hsame, hq]

theorem find?_alter_iff {op : Op} :
    (s.alter op).find? path = some o ↔
      op = .insert path o ∨ s.find? path = some o ∧ (∀ o', op ≠ .insert path o') ∧ op ≠ .remove path := by
  cases op with
  | insert q o' =>
    by_cases hq : q = path
    · subst hq
      simp [alter, Table.find?_insert]
    · simp [alter, Table.find?_insert, hq]
  | remove q => by_cases hq : q = path <;> simp [alter, Table.find?_erase, hq]
  | active => simp [alter]
  | expire q => simp [alter]

/-- An override expires if it is stored and its deadline has come. -/
theorem expire_eq_true_iff :
    (s.expire now path).2 = true ↔ ∃ o d, s.find? path = some o ∧ o.deadline = some d ∧ d ≤ now := by
  cases ho : s.find? path with
  | none => simp [expire, ho]
  | some o =>
    cases hd : o.deadline with
    | none => simp [expire, ho, Override.isLive, hd]
    | some d =>
      by_cases hlt : now < d
      · simp [expire, ho, Override.isLive, hd, hlt]
      · simp [expire, ho, Override.isLive, hd, hlt, Nat.not_lt.1 hlt]

theorem mem_active_iff {value : Json.Value} :
    (path, value) ∈ (s.active now).2 ↔ ∃ o, s.find? path = some o ∧ o.isLive now = true ∧ o.value = value := by
  simp only [active, List.mem_map, Prod.exists, Prod.mk.injEq]
  constructor
  · rintro ⟨q, o, ho, rfl, rfl⟩
    obtain ⟨hheld, hlive⟩ := find?_purge_eq_some_iff.1 (Table.mem_entries_iff.1 ho)
    exact ⟨o, hheld, hlive, rfl⟩
  · rintro ⟨o, hheld, hlive, rfl⟩
    exact ⟨path, o, Table.mem_entries_iff.2 (find?_purge_eq_some_iff.2 ⟨hheld, hlive⟩), rfl, rfl⟩

/-! ## All calls -/

/-- What is held was inserted last. -/
theorem lastInserted_of_held (h : (after calls).find? path = some o) : LastInserted path o calls := by
  induction calls using List.reverseRecOn with
  | nil => cases h
  | append_singleton calls c ih =>
    rw [after_snoc, find?_call_iff] at h
    refine since_snoc.2 ?_
    rcases h with hinsert | ⟨hheld, hinsert, hremove, -⟩
    · exact .inl hinsert
    · refine .inr ⟨ih hheld, ?_⟩
      rintro (⟨o', ho'⟩ | ⟨hop, -⟩)
      · exact hinsert o' ho'
      · exact hremove hop

/-- What was inserted last is held while it is live. -/
theorem held_of_lastInserted (h : Between start calls now) (ho : LastInserted path o calls) (hlive : o.isLive now = true) :
    (after calls).find? path = some o := by
  induction calls using List.reverseRecOn generalizing now with
  | nil => exact absurd ho not_since_nil
  | append_singleton calls c ih =>
    obtain ⟨hbefore, hle⟩ := between_snoc.1 h
    have hthen : o.isLive c.now = true := isLive_of_le hlive hle
    rw [after_snoc, find?_call_iff]
    rcases since_snoc.1 ho with hinsert | ⟨hlast, hkept⟩
    · exact .inl hinsert
    · have hheld := ih hbefore hlast hthen
      -- a removal would have found the override, and so have displaced it
      refine .inr ⟨hheld, fun o' ho' => hkept (.inl ⟨o', ho'⟩), fun hop => hkept (.inr ⟨hop, ?_⟩), fun _ => hthen⟩
      simp [remove, hheld]

theorem undropped_snoc (calls : List Call) (c : Call) :
    undropped (alterations (calls ++ [c])) = (undropped (alterations calls)).alter c.op := by
  have hsplit : alterations (calls ++ [c]) = alterations calls ++ [c.op].filter Op.alters := by simp [alterations]
  rw [hsplit, undropped, List.foldl_append]
  cases hop : c.op <;> rfl

/-- Of what is live, a store holds as much as one that never drops anything. -/
theorem held_iff_undropped (h : Between start calls now) (hlive : o.isLive now = true) :
    (after calls).find? path = some o ↔ (undropped (alterations calls)).find? path = some o := by
  induction calls using List.reverseRecOn generalizing now with
  | nil => rfl
  | append_singleton calls c ih =>
    obtain ⟨hbefore, hle⟩ := between_snoc.1 h
    have hthen : o.isLive c.now = true := isLive_of_le hlive hle
    rw [after_snoc, undropped_snoc, find?_call_iff, find?_alter_iff, ih hbefore hthen]
    simp [hthen]

/-- What is held was held before, unless it was inserted in the meantime. -/
theorem held_before (hnone : NoneInserts path more) (h : (after (calls ++ more)).find? path = some o) :
    (after calls).find? path = some o := by
  induction more using List.reverseRecOn with
  | nil => simpa using h
  | append_singleton more c ih =>
    rw [← List.append_assoc, after_snoc, find?_call_iff] at h
    rcases h with hinsert | ⟨hheld, -⟩
    · exact absurd hinsert (hnone c (by simp) o)
    · exact ih (fun b hb => hnone b (List.mem_append_left _ hb)) hheld

/-- What has expired does not expire again, unless there is another one. -/
theorem expires_once {t : Nat} (htrue : ((after calls).expire t path).2 = true) (hnone : NoneInserts path more) :
    ((after (calls ++ ⟨t, .expire path⟩ :: more)).expire now path).2 = false := by
  obtain ⟨o, d, ho, hd, hle⟩ := expire_eq_true_iff.1 htrue
  rw [← Bool.not_eq_true, expire_eq_true_iff]
  rintro ⟨o', d', ho', -, -⟩
  rw [List.append_cons] at ho'
  have hheld := held_before hnone ho'
  rw [after_snoc, find?_call_iff] at hheld
  rcases hheld with hinsert | ⟨hsame, -, -, hlive⟩
  · cases hinsert
  · obtain rfl := Option.some.inj (ho.symm.trans hsame)
    have hlt := isLive_iff.1 (hlive (.inl rfl)) d hd
    exact absurd hle (Nat.not_le.2 hlt)

/-- **What is active is exactly what is live.** After any calls in the order of time, whatever was inserted under whatever
deadline: the active overrides are listed by path, each path once, and they are those that were inserted last under their path,
not removed since, and have no deadline or a later one. An override expires if it is the stored one of its path and its deadline
has come; it does so once, for after that nothing is stored until something is inserted; and what is live stays. Calls that
expire or list overrides, however many and wherever among the others, change nothing of what is active. And a path that is left
out once comes back with another insertion alone. -/
theorem active_exactly_live (calls : List Call) (now : Nat) (h : Between 0 calls now) :
    ((after calls).active now).2.Pairwise (fun a b => a.1 < b.1) ∧
    (∀ path value, (path, value) ∈ ((after calls).active now).2 ↔
      ∃ o, LastInserted path o calls ∧ o.value = value ∧ (o.deadline = none ∨ ∃ d, o.deadline = some d ∧ now < d)) ∧
    (∀ path, ((after calls).expire now path).2 = true ↔
      ∃ o d, (after calls).find? path = some o ∧ o.deadline = some d ∧ d ≤ now) ∧
    (∀ path o, (after calls).find? path = some o → LastInserted path o calls) ∧
    (∀ before path t rest, calls = before ++ ⟨t, .expire path⟩ :: rest → ((after before).expire t path).2 = true →
      NoneInserts path rest → ((after calls).expire now path).2 = false) ∧
    (∀ path path' o, (after calls).find? path' = some o → o.isLive now = true →
      ((after calls).expire now path).1.find? path' = some o) ∧
    (∀ calls', Between 0 calls' now → alterations calls' = alterations calls →
      ((after calls').active now).2 = ((after calls).active now).2) ∧
    (∀ path more later, Between now more later → (∀ value, (path, value) ∉ ((after calls).active now).2) →
      NoneInserts path more → ∀ value, (path, value) ∉ ((after (calls ++ more)).active later).2) := by
  refine ⟨?_, ?_, fun path => expire_eq_true_iff, fun path o => lastInserted_of_held, ?_, ?_, ?_, ?_⟩
  · exact List.pairwise_map.2 ((after calls).purge now).sorted
  · intro path value
    have hlive : ∀ o : Override, o.isLive now = true ↔ o.deadline = none ∨ ∃ d, o.deadline = some d ∧ now < d := by
      intro o
      rw [isLive_iff]
      cases o.deadline <;> simp
    simp only [mem_active_iff, ← hlive]
    constructor
    · rintro ⟨o, hheld, hol, rfl⟩
      exact ⟨o, lastInserted_of_held hheld, rfl, hol⟩
    · rintro ⟨o, hlast, rfl, hol⟩
      exact ⟨o, held_of_lastInserted h hlast hol, hol, rfl⟩
  · rintro before path t rest rfl htrue hnone
    exact expires_once htrue hnone
  · intro path path' o hheld hlive
    have hcall : ((after calls).call ⟨now, .expire path⟩).find? path' = some o :=
      find?_call_iff.2 (.inr ⟨hheld, by simp, by simp, fun _ => hlive⟩)
    exact hcall
  · intro calls' h' halter
    have hpurge : (after calls').purge now = (after calls).purge now := by
      refine Table.ext_of_find? fun path o => ?_
      rw [find?_purge_eq_some_iff, find?_purge_eq_some_iff]
      refine and_congr_left fun hlive => ?_
      rw [held_iff_undropped h' hlive, held_iff_undropped h hlive, halter]
    simp only [active, hpurge]
  · intro path more later hmore hout hnone value hin
    obtain ⟨o, hheld, hlive, rfl⟩ := mem_active_iff.1 hin
    exact hout o.value (mem_active_iff.2 ⟨o, held_before hnone hheld, isLive_of_le hlive hmore.le, rfl⟩)

def inserting (now : Nat) (path : String) (value : Json.Value) (reason : String) (ttl : Option Nat) : List Call :=
  (make? value "ops" reason ttl now).toList.map fun o => ⟨now, .insert path o⟩

/-- an override without time to live at all, one for good, and one that is made anew the moment the one before it expires -/
def reinserted : List Call :=
  inserting 0 "ads.enabled" (.bool true) "none" (some 0) ++
    inserting 0 "ingest.fetch_timeout_ms" (.number (.natural 50)) "slow" none ++
    inserting 5 "ads.enabled" (.bool true) "first" (some 5) ++
    [⟨10, .expire "ads.enabled"⟩] ++
    inserting 10 "ads.enabled" (.bool false) "second" (some 10) ++
    [⟨12, .remove "hosts.allowed"⟩, ⟨12, .active⟩, ⟨14, .expire "ads.enabled"⟩]

theorem active_exactly_live_reinserted :
    Between 0 reinserted 15 ∧
      ((after reinserted).active 15).2.map (·.1) = ["ads.enabled", "ingest.fetch_timeout_ms"] ∧
      (∃ o, LastInserted "ads.enabled" o reinserted ∧ o.value = .bool false ∧
        (o.deadline = none ∨ ∃ d, o.deadline = some d ∧ 15 < d)) ∧
      ((after (reinserted.take 3)).expire 10 "ads.enabled").2 = true ∧
      ((after (reinserted.take 4)).expire 10 "ads.enabled").2 = false ∧
      ((after (reinserted.filter fun c => c.op.alters)).active 15).2 = ((after reinserted).active 15).2 ∧
      ∀ value, ("ads.enabled", value) ∉ ((after (reinserted ++ [⟨20, .active⟩])).active 20).2 := by
  have hbetween : Between 0 reinserted 15 := by decide +kernel
  obtain ⟨-, hactive, -, -, -, -, hsame, -⟩ := active_exactly_live reinserted 15 hbetween
  obtain ⟨-, -, -, -, honce, -⟩ := active_exactly_live (reinserted.take 4) 10 (by decide +kernel)
  obtain ⟨-, -, -, -, -, -, -, hback⟩ := active_exactly_live reinserted 20 (by decide +kernel)
  have hexpires : ((after (reinserted.take 3)).expire 10 "ads.enabled").2 = true := by decide +kernel
  refine ⟨hbetween, by decide +kernel, (hactive _ _).1 (List.mem_cons_self), hexpires, ?_, ?_, ?_⟩
  · exact honce (reinserted.take 3) "ads.enabled" 10 [] rfl hexpires (by simp [NoneInserts])
  · exact hsame _ (by decide +kernel) rfl
  · exact hback "ads.enabled" [⟨20, .active⟩] 20 (by simp [Between]) (fun value h => by
      have hkeys : "ads.enabled" ∉ ((after reinserted).active 20).2.map (·.1) := by decide +kernel
      exact hkeys (List.mem_map.2 ⟨_, h, rfl⟩)) (by simp [NoneInserts])

end AdConfirm.Policy.Overrides
