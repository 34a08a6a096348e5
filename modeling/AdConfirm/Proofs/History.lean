import Mathlib.Data.List.Induction

/-!
What holds since something happened.

A history is a list of what happened, the oldest first. What happens is judged by what happened before it, so the conditions
here take the part of the history before a point and what happens at that point.

- `snoc_eq_split_iff`: the points of a history after one thing more. `since_snoc`, `ever_snoc`, `always_snoc`: what it knows then.
- `exists_first`, `First.unique`: what ever happened happened once for the first time.
- `yields_snoc`, `mem_yields`: what a history yields in the end, and where it comes from.
-/

namespace AdConfirm

variable {α : Type}

/-- somewhere in the history it started, and nothing that happened after that ended it -/
def Since (starts ends : List α → α → Prop) (history : List α) : Prop :=
  ∃ before a after, history = before ++ a :: after ∧ starts before a ∧
    ∀ mid b rest, after = mid ++ b :: rest → ¬ ends (before ++ a :: mid) b

/-- it happened somewhere in the history -/
def Ever (happens : List α → α → Prop) (history : List α) : Prop :=
  ∃ before a after, history = before ++ a :: after ∧ happens before a

/-- it holds of all that happened in the history -/
def Always (holds : List α → α → Prop) (history : List α) : Prop :=
  ∀ before a after, history = before ++ a :: after → holds before a

/-- the point of the history where it happened for the first time -/
structure First (happens : List α → α → Prop) (history before : List α) (a : α) (after : List α) : Prop where
  split : history = before ++ a :: after
  here : happens before a
  not_before : ¬ Ever happens before

/-- all that the things that happened after some history yielded, the oldest first -/
def yields {β : Type} (f : List α → α → List β) (before : List α) : List α → List β
  | [] => []
  | a :: after => f before a ++ yields f (before ++ [a]) after

variable {starts ends happens holds : List α → α → Prop} {history : List α}

/-- A point of a history with one thing more is its end, or a point of what it was before. -/
theorem snoc_eq_split_iff {before after : List α} {a b : α} :
    history ++ [b] = before ++ a :: after ↔
      before = history ∧ a = b ∧ after = [] ∨ ∃ rest, after = rest ++ [b] ∧ history = before ++ a :: rest := by
  constructor
  · intro h
    rcases List.eq_nil_or_concat after with rfl | ⟨rest, c, rfl⟩
    · obtain ⟨rfl, hb⟩ := List.append_inj' h rfl
      exact .inl ⟨rfl, (List.singleton_inj.1 hb).symm, rfl⟩
    · rw [List.concat_eq_append, ← List.cons_append, ← List.append_assoc] at h
      obtain ⟨rfl, hb⟩ := List.append_inj' h rfl
      obtain rfl := List.singleton_inj.1 hb
      exact .inr ⟨rest, List.concat_eq_append .., rfl⟩
  · rintro (⟨rfl, rfl, rfl⟩ | ⟨rest, rfl, rfl⟩) <;> simp

theorem not_since_nil : ¬ Since starts ends [] := by
  rintro ⟨before, a, after, h, -⟩
  simp at h

/-- What starts now holds now; else it holds if it held before and is not ended now. -/
theorem since_snoc {b : α} :
    Since starts ends (history ++ [b]) ↔ starts history b ∨ (Since starts ends history ∧ ¬ ends history b) := by
  constructor
  · rintro ⟨before, a, after, h, hs, he⟩
    rcases snoc_eq_split_iff.1 h with ⟨rfl, rfl, rfl⟩ | ⟨rest, rfl, rfl⟩
    · exact .inl hs
    · refine .inr ⟨⟨before, a, rest, rfl, hs, fun mid d more hm => ?_⟩, he rest b [] rfl⟩
      exact he mid d (more ++ [b]) (by simp [hm])
  · rintro (hs | ⟨⟨before, a, after, rfl, hs, he⟩, hn⟩)
    · exact ⟨history, b, [], rfl, hs, by simp⟩
    · refine ⟨before, a, after ++ [b], by simp, hs, fun mid d rest hm => ?_⟩
      rcases snoc_eq_split_iff.1 hm with ⟨rfl, rfl, -⟩ | ⟨rest, -, rfl⟩
      · exact hn
      · exact he mid d rest rfl

theorem always_nil : Always holds [] := by
  intro before a after h
  simp at h

/-- It holds of all that happened if it did before and holds of what happens now. -/
theorem always_snoc {b : α} : Always holds (history ++ [b]) ↔ Always holds history ∧ holds history b := by
  constructor
  · refine fun h => ⟨?_, h history b [] rfl⟩
    rintro before a after rfl
    exact h before a (after ++ [b]) (by simp)
  · rintro ⟨h, hb⟩ before a after heq
    rcases snoc_eq_split_iff.1 heq with ⟨rfl, rfl, -⟩ | ⟨rest, -, hrest⟩
    · exact hb
    · exact h before a rest hrest

theorem ever_iff_since : Ever happens history ↔ Since happens (fun _ _ => False) history := by
  simp [Ever, Since]

theorem not_ever_nil : ¬ Ever happens [] := by
  rw [ever_iff_since]
  exact not_since_nil

/-- What ever happened happens now or happened before. -/
theorem ever_snoc {b : α} : Ever happens (history ++ [b]) ↔ happens history b ∨ Ever happens history := by
  rw [ever_iff_since, ever_iff_since, since_snoc, not_false_iff, and_true]

/-- What ever happened happened once for the first time. -/
theorem exists_first (h : Ever happens history) : ∃ before a after, First happens history before a after := by
  induction history using List.reverseRecOn with
  | nil => exact absurd h not_ever_nil
  | append_singleton history b ih =>
    by_cases hprev : Ever happens history
    · obtain ⟨before, a, after, split, here, not_before⟩ := ih hprev
      exact ⟨before, a, after ++ [b], by simp [split], here, not_before⟩
    · exact ⟨history, b, [], rfl, (ever_snoc.1 h).resolve_right hprev, hprev⟩

theorem First.ever {before after : List α} {a : α} (h : First happens history before a after) : Ever happens history :=
  ⟨before, a, after, h.split, h.here⟩

theorem First.unique {before before' after after' : List α} {a a' : α} (h : First happens history before a after)
    (h' : First happens history before' a' after') : before = before' ∧ a = a' ∧ after = after' := by
  have heq : before ++ a :: after = before' ++ a' :: after' := h.split.symm.trans h'.split
  rcases List.append_eq_append_iff.1 heq with ⟨l, rfl, hl⟩ | ⟨l, rfl, hl⟩
  · cases l with
    | nil => exact ⟨by simp, List.cons.inj hl⟩
    | cons b l =>
      obtain ⟨rfl, -⟩ := List.cons.inj hl
      exact absurd ⟨before, a, l, rfl, h.here⟩ h'.not_before
  · cases l with
    | nil => exact ⟨by simp, (List.cons.inj hl).1.symm, (List.cons.inj hl).2.symm⟩
    | cons b l =>
      obtain ⟨rfl, -⟩ := List.cons.inj hl
      exact absurd ⟨before', a', l, rfl, h'.here⟩ h.not_before

/-- What a history yielded in the end was yielded by something that happened in it. -/
theorem mem_yields {β : Type} {f : List α → α → List β} {before xs : List α} {b : β} :
    b ∈ yields f before xs ↔ ∃ mid a after, xs = mid ++ a :: after ∧ b ∈ f (before ++ mid) a := by
  induction xs generalizing before with
  | nil => simp [yields]
  | cons x xs ih =>
    rw [yields, List.mem_append, ih]
    constructor
    · rintro (h | ⟨mid, a, after, rfl, h⟩)
      · exact ⟨[], x, xs, rfl, by simpa using h⟩
      · exact ⟨x :: mid, a, after, rfl, by simpa using h⟩
    · rintro ⟨mid, a, after, heq, h⟩
      cases mid with
      | nil =>
        obtain ⟨rfl, rfl⟩ := List.cons.inj heq
        exact .inl (by simpa using h)
      | cons y mid =>
        obtain ⟨rfl, rfl⟩ := List.cons.inj heq
        exact .inr ⟨mid, a, after, rfl, by simpa using h⟩

theorem yields_append {β : Type} (f : List α → α → List β) (before xs ys : List α) :
    yields f before (xs ++ ys) = yields f before xs ++ yields f (before ++ xs) ys := by
  induction xs generalizing before with
  | nil => simp [yields]
  | cons x xs ih => simp [yields, ih]

theorem yields_snoc {β : Type} (f : List α → α → List β) (before xs : List α) (x : α) :
    yields f before (xs ++ [x]) = yields f before xs ++ f (before ++ xs) x := by
  simp [yields_append, yields]

end AdConfirm
