import Mathlib.Data.List.Basic
import Mathlib.Data.List.TakeWhile
import AdConfirm.Text.Ascii
import AdConfirm.Text.Blank
import AdConfirm.Text.Split

/-!
Trimmed and lowered texts.

- `head?_trimIf`, `getLast?_trimIf`: a trimmed text neither begins nor ends with a character of the class.
- `trimIf_eq_self`, `lower_eq_self`: what is trimmed and lowered already stays as it is.
- `trimIf_padded`: what is put around a text from the class is trimmed away. `trimIf_eq_nil_iff`: when nothing is left.
- `Tight`: texts with no white space at either end; one behind the other, they make another.
- `splitIf_eq_singleton`, `splitIf_append`, `cutAt_append`: where a text is split and cut.
- `apply_lowerChar`, `not_capital_lowerChar`: lowering does not lead into or out of a class without letters, such as white
  space, and leaves no ASCII capital. `trim_lower`: so trimming and lowering may change places.
-/

namespace AdConfirm.Text

variable {p : Char → Bool} {s : List Char} {c : Char}

theorem of_head?_dropWhile (h : (s.dropWhile p).head? = some c) : p c = false := by
  have hnot := List.head?_dropWhile_not p s
  rw [h] at hnot
  exact hnot

theorem trimRightIf_prefix (p : Char → Bool) (s : List Char) : trimRightIf p s <+: s := by
  have hsuffix : s.reverse.dropWhile p <:+ s.reverse := List.dropWhile_suffix p
  exact List.reverse_suffix.1 (by simpa [trimRightIf] using hsuffix)

/-- A trimmed text does not begin with a character of the class. -/
theorem head?_trimIf (h : (trimIf p s).head? = some c) : p c = false := by
  obtain ⟨rest, hrest⟩ := trimRightIf_prefix p (trimLeftIf p s)
  refine of_head?_dropWhile (s := s) ?_
  have hhead : (trimLeftIf p s).head? = some c := by
    rw [← hrest, List.head?_append]
    simp [show (trimRightIf p (trimLeftIf p s)).head? = some c from h]
  exact hhead

/-- A trimmed text does not end with a character of the class. -/
theorem getLast?_trimIf (h : (trimIf p s).getLast? = some c) : p c = false := by
  refine of_head?_dropWhile (s := (trimLeftIf p s).reverse) ?_
  rw [trimIf, trimRightIf, List.getLast?_reverse] at h
  exact h

theorem toNat_lowerChar (h : 'A' ≤ c ∧ c ≤ 'Z') : (lowerChar c).toNat = c.toNat + 32 := by
  have hle : c.toNat ≤ 90 := h.2
  have hvalid : (c.toNat + 32).isValidChar := Or.inl (by omega)
  rw [lowerChar, if_pos h, Char.ofNat, dif_pos hvalid]
  rfl

/-- Lowering does not lead into or out of a class without letters. -/
theorem apply_lowerChar (h : ∀ c, isLetter c = true → p c = false) (c : Char) : p (lowerChar c) = p c := by
  by_cases hc : 'A' ≤ c ∧ c ≤ 'Z'
  · have hlower : isLetter (lowerChar c) = true := by
      have hge : 65 ≤ c.toNat := hc.1
      have hle : c.toNat ≤ 90 := hc.2
      have hfirst : 97 ≤ (lowerChar c).toNat := by
        rw [toNat_lowerChar hc]
        omega
      have hlast : (lowerChar c).toNat ≤ 122 := by
        rw [toNat_lowerChar hc]
        omega
      simp only [isLetter, Bool.or_eq_true, Bool.and_eq_true, decide_eq_true_eq]
      exact .inl ⟨hfirst, hlast⟩
    rw [h _ hlower, h c (by simp [isLetter, hc])]
  · rw [lowerChar, if_neg hc]

theorem not_blank_of_isLetter (h : isLetter c = true) : isBlank c = false := by
  simp only [isLetter, Bool.or_eq_true, Bool.and_eq_true, decide_eq_true_eq] at h
  have hrange : 97 ≤ c.toNat ∧ c.toNat ≤ 122 ∨ 65 ≤ c.toNat ∧ c.toNat ≤ 90 := h
  rw [Bool.eq_false_iff]
  intro hblank
  simp only [isBlank, Bool.or_eq_true, Bool.and_eq_true, decide_eq_true_eq, beq_iff_eq] at hblank
  omega

/-- Lowering neither makes nor removes white space. -/
theorem isBlank_lowerChar (c : Char) : isBlank (lowerChar c) = isBlank c := apply_lowerChar (fun _ => not_blank_of_isLetter) c

/-- Lowering leaves no ASCII capital. -/
theorem not_capital_lowerChar (c : Char) : ¬ ('A' ≤ lowerChar c ∧ lowerChar c ≤ 'Z') := by
  by_cases h : 'A' ≤ c ∧ c ≤ 'Z'
  · rintro ⟨-, hle⟩
    have hle : (lowerChar c).toNat ≤ 90 := hle
    have hge : 65 ≤ c.toNat := h.1
    rw [toNat_lowerChar h] at hle
    omega
  · rwa [lowerChar, if_neg h]

theorem dropWhile_eq_self (h : ∀ c, s.head? = some c → p c = false) : s.dropWhile p = s := by
  cases s with
  | nil => rfl
  | cons c rest => rw [List.dropWhile_cons_of_neg (by simp [h c rfl])]

/-- A text with no character of the class at either end is not trimmed. -/
theorem trimIf_eq_self (hfirst : ∀ c, s.head? = some c → p c = false) (hlast : ∀ c, s.getLast? = some c → p c = false) :
    trimIf p s = s := by
  rw [trimIf, trimLeftIf, dropWhile_eq_self hfirst, trimRightIf, dropWhile_eq_self, List.reverse_reverse]
  simpa [List.head?_reverse] using hlast

theorem trimRightIf_append {after : List Char} (h : ∀ c ∈ after, p c = true) (s : List Char) :
    trimRightIf p (s ++ after) = trimRightIf p s := by
  rw [trimRightIf, List.reverse_append, List.dropWhile_append_of_pos (by simpa using h), trimRightIf]

/-- What is put around a text from the class is trimmed away. -/
theorem trimIf_padded {before after : List Char} (hbefore : ∀ c ∈ before, p c = true) (hafter : ∀ c ∈ after, p c = true)
    (s : List Char) : trimIf p (before ++ s ++ after) = trimIf p s := by
  rw [trimIf, trimLeftIf, List.append_assoc, List.dropWhile_append_of_pos hbefore, List.dropWhile_append, trimIf, trimLeftIf]
  cases hs : s.dropWhile p with
  | nil => simp [List.dropWhile_eq_nil_iff.2 hafter]
  | cons c rest => simpa using trimRightIf_append hafter (c :: rest)

/-- Nothing is left of a text of the class, and of no other. -/
theorem trimIf_eq_nil_iff : trimIf p s = [] ↔ ∀ c ∈ s, p c = true := by
  constructor
  · intro h
    rw [trimIf, trimRightIf, List.reverse_eq_nil_iff, List.dropWhile_eq_nil_iff] at h
    rw [← List.dropWhile_eq_nil_iff]
    cases hs : trimLeftIf p s with
    | nil => exact hs
    | cons c rest =>
      have hc : p c = false := of_head?_dropWhile (s := s) (congrArg List.head? hs)
      rw [h c (by simp [hs])] at hc
      cases hc
  · intro h
    have hpadded := trimIf_padded h (List.forall_mem_nil _) []
    rw [List.append_nil, List.append_nil] at hpadded
    exact hpadded

theorem isBlankText_iff : isBlankText s = true ↔ trim s = [] := by
  rw [isBlankText, List.all_eq_true, trim, trimIf_eq_nil_iff]

/-- the text neither begins nor ends with white space -/
structure Tight (s : List Char) : Prop where
  first : ∀ c, s.head? = some c → isBlank c = false
  last : ∀ c, s.getLast? = some c → isBlank c = false

theorem Tight.trim_eq {s : List Char} (h : Tight s) : trim s = s := trimIf_eq_self h.first h.last

theorem tight_of_all (h : s.all (!isBlank ·) = true) : Tight s := by
  have hnot : ∀ c ∈ s, isBlank c = false := fun c hc => by simpa using List.all_eq_true.1 h c hc
  exact ⟨fun c hc => hnot c (List.mem_of_mem_head? hc), fun c hc => hnot c (List.mem_of_mem_getLast? hc)⟩

theorem tight_enclosed {a b : Char} (ha : isBlank a = false) (hb : isBlank b = false) (s : List Char) :
    Tight (a :: s ++ [b]) := by
  refine ⟨fun c hc => ?_, fun c hc => ?_⟩
  · obtain rfl := Option.some.inj hc
    exact ha
  · rw [List.getLast?_concat] at hc
    obtain rfl := Option.some.inj hc
    exact hb

theorem Tight.append {s t : List Char} (hs : Tight s) (ht : Tight t) : Tight (s ++ t) := by
  refine ⟨fun c hc => ?_, fun c hc => ?_⟩
  · rw [List.head?_append, Option.or_eq_some_iff] at hc
    rcases hc with hc | ⟨-, hc⟩
    · exact hs.first c hc
    · exact ht.first c hc
  · rw [List.getLast?_append, Option.or_eq_some_iff] at hc
    rcases hc with hc | ⟨-, hc⟩
    · exact ht.last c hc
    · exact hs.last c hc

theorem not_blank_of_isDigit (h : isDigit c = true) : isBlank c = false := by
  simp only [isDigit, Bool.and_eq_true, decide_eq_true_eq] at h
  have hge : 48 ≤ c.toNat := h.1
  have hle : c.toNat ≤ 57 := h.2
  simp only [isBlank]
  grind

/-- A text without ASCII capitals is not lowered. -/
theorem lower_eq_self (h : ∀ c ∈ s, ¬ ('A' ≤ c ∧ c ≤ 'Z')) : lower s = s := by
  refine (List.map_congr_left fun c hc => ?_).trans (List.map_id s)
  rw [lowerChar, if_neg (h c hc), id]

theorem lower_lower (s : List Char) : lower (lower s) = lower s := by
  refine lower_eq_self fun c hc => ?_
  obtain ⟨d, -, rfl⟩ := List.mem_map.1 hc
  exact not_capital_lowerChar d

/-- Trimming and lowering may change places. -/
theorem trim_lower (s : List Char) : trim (lower s) = lower (trim s) := by
  have hblank : isBlank ∘ lowerChar = isBlank := funext isBlank_lowerChar
  simp only [trim, trimIf, trimLeftIf, trimRightIf, lower, ← List.map_reverse, List.dropWhile_map, hblank]

/-- A text without separators is not split. -/
theorem splitIf_eq_singleton (h : ∀ c ∈ s, p c = false) : splitIf p s = [s] := by
  induction s with
  | nil => rfl
  | cons c rest ih =>
    obtain ⟨hc, hrest⟩ := List.forall_mem_cons.1 h
    simp [splitIf, hc, ih hrest, consFirst]

/-- A text is split at its first separator. -/
theorem splitIf_append (h : ∀ c ∈ s, p c = false) {sep : Char} (hsep : p sep = true) (rest : List Char) :
    splitIf p (s ++ sep :: rest) = s :: splitIf p rest := by
  induction s with
  | nil => simp [splitIf, hsep]
  | cons c s ih =>
    obtain ⟨hc, hs⟩ := List.forall_mem_cons.1 h
    simp [splitIf, hc, ih hs, consFirst]

/-- A text is cut at the first occurrence of a character. -/
theorem cutAt_append {d : Char} (h : d ∉ s) (rest : List Char) : cutAt d (s ++ d :: rest) = some (s, rest) := by
  have hs : ∀ c ∈ s, decide (c ≠ d) = true := fun c hc => decide_eq_true fun heq => h (heq ▸ hc)
  rw [cutAt, List.dropWhile_append_of_pos hs, List.takeWhile_append_of_pos hs]
  simp

end AdConfirm.Text
