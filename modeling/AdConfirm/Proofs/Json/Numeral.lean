import Mathlib.Data.List.TakeWhile
import Mathlib.Tactic.Cases
import AdConfirm.Json.Number
import AdConfirm.Json.Token

/-!
Numbers as JSON writes and reads them.

A number is a whole part, which begins with a zero only if that is all of it, then perhaps a point and decimals, then perhaps a
power of ten; a minus sign stands in front if it is negative. The scanner takes all of these and nothing that follows, as long as
what follows cannot go on with a number. Whole numbers are written as their digits, and the digits stand for the number.

- `Ends`: what can follow a number. `Numeral`: a text that is one number token, whatever can follow it.
- `Magnitude`: the texts of numbers without a sign. `Magnitude.numeral`: with and without a sign, they are numerals.
- `numeral_toDigits`, `numeral_neg`: whole numbers are written so.
- `ofText?_toDigits`, `ofText?_neg`: these stand for the numbers written, within 64 bits.
-/

namespace AdConfirm.Json

open AdConfirm.Text

/-- the text does not go on with a number -/
def Ends (rest : List Char) : Prop := ∀ c, rest.head? = some c → isDigit c = false ∧ c ≠ '.' ∧ c ≠ 'e' ∧ c ≠ 'E'

/-- the text is one number token -/
structure Numeral (n : List Char) : Prop where
  begins : ∃ c, n.head? = some c ∧ (isDigit c = true ∨ c = '-')
  scans : ∀ rest, Ends rest → scanNumber (n ++ rest) = some (n, rest)

theorem ends_nil : Ends [] := by simp [Ends]

theorem ends_cons {c : Char} (h : isDigit c = false ∧ c ≠ '.' ∧ c ≠ 'e' ∧ c ≠ 'E') (rest : List Char) : Ends (c :: rest) := by
  rintro d hd
  obtain rfl := Option.some.inj hd
  exact h

/-! ## Digits of a number -/

theorem isDigit_of_mem_toDigits {n : Nat} {c : Char} (h : c ∈ Nat.toDigits 10 n) : isDigit c = true := by
  have hdigit := Nat.isDigit_of_mem_toDigits (by decide) (by decide) h
  simp only [Char.isDigit, Bool.and_eq_true, decide_eq_true_eq] at hdigit
  simp only [isDigit, Bool.and_eq_true, decide_eq_true_eq]
  exact hdigit

theorem takeWhile_digits {ds rest : List Char} (hds : ∀ c ∈ ds, isDigit c = true)
    (hrest : ∀ c, rest.head? = some c → isDigit c = false) :
    (ds ++ rest).takeWhile isDigit = ds ∧ (ds ++ rest).dropWhile isDigit = rest := by
  have hnone : rest.takeWhile isDigit = [] ∧ rest.dropWhile isDigit = rest := by
    cases rest with
    | nil => exact ⟨rfl, rfl⟩
    | cons c rest => simp [hrest c rfl]
  rw [List.takeWhile_append_of_pos hds, List.dropWhile_append_of_pos hds, hnone.1, hnone.2]
  simp

/-- The digits of a number stand for it. -/
theorem digitsValue_toDigits (n : Nat) : digitsValue (Nat.toDigits 10 n) = n := by
  have hvalue : Nat.ofDigitChars 10 (Nat.toDigits 10 n) 0 = n := Nat.ofDigitChars_toDigits (by decide) (by decide)
  have hfold : ∀ ds m, ds.foldl (fun n d => n * 10 + digitValue d) m = Nat.ofDigitChars 10 ds m := by
    intro ds
    induction ds with
    | nil => exact fun m => rfl
    | cons d ds ih =>
      intro m
      rw [List.foldl_cons, ih, Nat.ofDigitChars_cons, Nat.mul_comm]
      rfl
  rw [digitsValue, hfold, hvalue]

/-- Only zero begins with a zero. -/
theorem head?_toDigits {n : Nat} (h : n ≠ 0) : ∃ c, (Nat.toDigits 10 n).head? = some c ∧ c ≠ '0' := by
  induction n using Nat.strongRecOn with
  | ind n ih =>
    rw [Nat.toDigits_eq_if (by decide)]
    split
    · next hlt =>
      have hdigit : ∀ n < 10, n ≠ 0 → Nat.digitChar n ≠ '0' := by decide
      exact ⟨n.digitChar, rfl, hdigit n hlt h⟩
    · next hge =>
      obtain ⟨c, hc, hne⟩ := ih (n / 10) (by omega) (by omega)
      exact ⟨c, by rw [List.head?_append, hc]; rfl, hne⟩

/-! ## Scanning -/

/-- digits and nothing else, one of them at least -/
structure Digits (ds : List Char) : Prop where
  nonempty : ds ≠ []
  digits : ∀ c ∈ ds, isDigit c = true

/-- the whole part of a number: digits that begin with a zero only if that is all of them -/
structure Whole (ds : List Char) : Prop extends Digits ds where
  first : ds.head? = some '0' → ds = ['0']

/-- the decimals of a number behind their point, if it has any -/
inductive Fraction : List Char → Prop where
  | absent : Fraction []
  | decimals {ds : List Char} (h : Digits ds) : Fraction ('.' :: ds)

/-- the power of ten of a number with its sign, if it has one -/
inductive Power : List Char → Prop where
  | absent : Power []
  | signed {sign : Char} {ds : List Char} (hsign : sign = '+' ∨ sign = '-') (h : Digits ds) : Power ('e' :: sign :: ds)

/-- the text of a number without its sign -/
inductive Magnitude : List Char → Prop where
  | mk {whole fraction power : List Char} (hw : Whole whole) (hf : Fraction fraction) (hp : Power power) :
      Magnitude (whole ++ (fraction ++ power))

section Scanning

variable {whole fraction power ds rest : List Char}

/-- What follows the decimals does not go on with them. -/
theorem head?_power (hp : Power power) (hrest : Ends rest) {c : Char} (hc : (power ++ rest).head? = some c) :
    isDigit c = false ∧ c ≠ '.' := by
  cases hp with
  | absent => exact ⟨(hrest c hc).1, (hrest c hc).2.1⟩
  | signed hsign h =>
    obtain rfl := Option.some.inj hc
    decide

/-- What follows the whole part does not go on with it. -/
theorem head?_fraction (hf : Fraction fraction) (hp : Power power) (hrest : Ends rest) {c : Char}
    (hc : (fraction ++ (power ++ rest)).head? = some c) : isDigit c = false := by
  cases hf with
  | absent => exact (head?_power hp hrest hc).1
  | decimals h =>
    obtain rfl := Option.some.inj hc
    decide

theorem scanWhole_append (hw : Whole whole) (hrest : ∀ c, rest.head? = some c → isDigit c = false) :
    scanWhole (whole ++ rest) = some (whole, rest) := by
  obtain ⟨⟨hne, hdigits⟩, hfirst⟩ := hw
  obtain ⟨c, ds, rfl⟩ := List.exists_cons_of_ne_nil hne
  by_cases hc : c = '0'
  · subst hc
    obtain rfl := (List.cons.inj (hfirst rfl)).2
    rfl
  · obtain ⟨htake, hdrop⟩ := takeWhile_digits (fun d hd => hdigits d (List.mem_cons_of_mem c hd)) hrest
    rw [List.cons_append, scanWhole]
    · rw [if_pos (hdigits c List.mem_cons_self), htake, hdrop]
    · exact hc

theorem scanDigits_append (h : Digits ds) (hrest : ∀ c, rest.head? = some c → isDigit c = false) :
    scanDigits (ds ++ rest) = some (ds, rest) := by
  obtain ⟨htake, hdrop⟩ := takeWhile_digits h.digits hrest
  rw [scanDigits, htake, hdrop, if_neg (by simp [h.nonempty])]

theorem scanFraction_append (hf : Fraction fraction) (hrest : ∀ c, rest.head? = some c → isDigit c = false ∧ c ≠ '.') :
    scanFraction (fraction ++ rest) = some (fraction, rest) := by
  cases hf with
  | absent =>
    cases rest with
    | nil => rfl
    | cons c rest =>
      rw [List.nil_append, scanFraction]
      exact fun r hr => (hrest c rfl).2 (List.cons.inj hr).1
  | decimals h =>
    rw [List.cons_append, scanFraction, scanDigits_append h fun c hc => (hrest c hc).1]
    rfl

theorem scanPower_append (hp : Power power) (hrest : Ends rest) : scanPower (power ++ rest) = some (power, rest) := by
  cases hp with
  | absent =>
    cases rest with
    | nil => rfl
    | cons c rest =>
      obtain ⟨-, -, he, hE⟩ := hrest c rfl
      simp [scanPower, he, hE]
  | signed hsign h =>
    have hdigits := scanDigits_append h fun c hc => (hrest c hc).1
    rcases hsign with rfl | rfl <;> simp [scanPower, hdigits]

/-- The text of a number is taken off whatever can follow it. -/
theorem scanMagnitude_append {n : List Char} (h : Magnitude n) (hrest : Ends rest) :
    scanMagnitude (n ++ rest) = some (n, rest) := by
  obtain ⟨hw, hf, hp⟩ := h
  rw [scanMagnitude, List.append_assoc, List.append_assoc, scanWhole_append hw fun c => head?_fraction hf hp hrest]
  simp [scanFraction_append hf fun c => head?_power hp hrest, scanPower_append hp hrest]

end Scanning

theorem Magnitude.begins {n : List Char} (h : Magnitude n) : ∃ c ds, n = c :: ds ∧ isDigit c = true := by
  obtain ⟨⟨⟨hne, hdigits⟩, -⟩, -, -⟩ := h
  obtain ⟨c, ds, rfl⟩ := List.exists_cons_of_ne_nil hne
  exact ⟨c, _, rfl, hdigits c List.mem_cons_self⟩

/-- **The texts of numbers are numerals**, without a sign and with one. -/
theorem Magnitude.numeral {n : List Char} (h : Magnitude n) : Numeral n ∧ Numeral ('-' :: n) := by
  obtain ⟨c, ds, hn, hc⟩ := h.begins
  constructor
  · refine ⟨⟨c, by rw [hn]; rfl, .inl hc⟩, fun rest hrest => ?_⟩
    rw [← scanMagnitude_append h hrest, hn, List.cons_append, scanNumber]
    rintro r hr
    obtain rfl := (List.cons.inj hr).1
    cases hc
  · refine ⟨⟨'-', rfl, .inr rfl⟩, fun rest hrest => ?_⟩
    rw [List.cons_append, scanNumber, scanMagnitude_append h hrest]
    rfl

/-! ## Whole numbers -/

theorem digits_toDigits (n : Nat) : Digits (Nat.toDigits 10 n) := ⟨Nat.toDigits_ne_nil, fun _ => isDigit_of_mem_toDigits⟩

theorem magnitude_toDigits (n : Nat) : Magnitude (Nat.toDigits 10 n) := by
  have hwhole : Whole (Nat.toDigits 10 n) := by
    refine ⟨digits_toDigits n, fun hzero => ?_⟩
    by_cases hn : n = 0
    · subst hn
      rfl
    · obtain ⟨c, hc, hne⟩ := head?_toDigits hn
      exact absurd (Option.some.inj (hc.symm.trans hzero)) hne
  have hmagnitude := Magnitude.mk hwhole .absent .absent
  rwa [List.append_nil, List.append_nil] at hmagnitude

theorem numeral_toDigits (n : Nat) : Numeral (Nat.toDigits 10 n) := (magnitude_toDigits n).numeral.1

theorem numeral_neg (n : Nat) : Numeral ('-' :: Nat.toDigits 10 n) := (magnitude_toDigits n).numeral.2

/-! ## Reading -/

/-- Digits with or without a sign are taken apart as such, with no fraction and no power. -/
theorem parts_digits (ds : List Char) (h : ∀ c ∈ ds, isDigit c = true) :
    Number.Parts.ofText ds = ⟨false, ds, [], 0, false⟩ ∧ Number.Parts.ofText ('-' :: ds) = ⟨true, ds, [], 0, false⟩ := by
  have hends : ∀ c, ([] : List Char).head? = some c → isDigit c = false := nofun
  obtain ⟨htake, hdrop⟩ := takeWhile_digits h hends
  rw [List.append_nil] at htake hdrop
  constructor
  · unfold Number.Parts.ofText
    split
    next negative s hsign =>
    -- digits do not begin with a sign
    have hplain : (false, ds) = (negative, s) := by
      rw [← hsign]
      clear hsign
      split
      · next rest => cases h '-' List.mem_cons_self
      · rfl
    obtain ⟨rfl, rfl⟩ := Prod.mk.inj hplain
    simp only [htake, hdrop]
    rfl
  · simp only [Number.Parts.ofText, htake, hdrop]
    rfl

/-- The digits of a number of 64 bits stand for it. -/
theorem ofText?_toDigits (n : Nat) (h : n < UInt64.size) :
    Number.ofText? (Nat.toDigits 10 n) = some (.natural (UInt64.ofNat n)) := by
  have hparts := (parts_digits (Nat.toDigits 10 n) fun c => isDigit_of_mem_toDigits).1
  simp [Number.ofText?, hparts, digitsValue_toDigits, h]

/-- Behind a minus sign they stand for the negative number, within 64 bits. -/
theorem ofText?_neg (n : Nat) (hpos : 0 < n) (h : 2 * n ≤ UInt64.size) :
    Number.ofText? ('-' :: Nat.toDigits 10 n) = some (.negative (Int64.ofInt (-(n : Int)))) := by
  have hparts := (parts_digits (Nat.toDigits 10 n) fun c => isDigit_of_mem_toDigits).2
  simp [Number.ofText?, hparts, digitsValue_toDigits, hpos, h]

end AdConfirm.Json
