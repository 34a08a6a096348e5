import AdConfirm.Proofs.Json.Numeral
import AdConfirm.Proofs.Text

/-!
Doubles as JSON writes them.

The shortest decimal of a double has digits that do not begin with a zero, since no grid point near a positive number is zero. In
whatever layout these are written, decimals or a power of ten stand behind the whole part. So the text of a double is that of a
number, and it is never read as a whole number.

- `digits_shortest`: the digits of the shortest decimal.
- `Pointed`: the texts of numbers with decimals or a power of ten.
- `pointed_pointAfter`, `pointed_withPower`: both layouts give such a text. `exists_pointed_render`: so a double is written as one.
- `exists_float_of_render`: what a written double is read as.
-/

namespace AdConfirm

open AdConfirm.Text

namespace Decimal.Binary64

open AdConfirm.Json (Digits digits_toDigits isDigit_of_mem_toDigits head?_toDigits)

/-! ## The digits of the shortest decimal -/

theorem le_of_holds {i : Interval} {low high p : Nat} (h : i.holds low high p = true) : low ≤ p := by
  unfold Interval.holds at h
  split at h <;> simp only [Bool.and_eq_true, decide_eq_true_eq] at h <;> omega

theorem le_roundEven (q r d : Nat) : q ≤ roundEven q r d := by
  unfold roundEven
  split_ifs <;> omega

/-- An interval above zero holds no grid point that is zero. -/
theorem onGrid_ne_zero {i : Interval} (hlow : 0 < i.low) {unit : Int} {q : Nat} (h : i.onGrid unit = some q) : q ≠ 0 := by
  have hup : 0 < i.low * Nat.pow 10 (-unit).toNat := Nat.mul_pos hlow (Nat.pow_pos (by decide))
  simp only [Interval.onGrid] at h
  set d := i.den * Nat.pow 10 unit.toNat
  set v := i.value * Nat.pow 10 (-unit).toNat
  have hbelow : ∀ {high}, i.holds (i.low * Nat.pow 10 (-unit).toNat) high (v / d * d) = true → v / d ≠ 0 := by
    intro high hholds hzero
    have hle := le_of_holds hholds
    rw [hzero, Nat.zero_mul] at hle
    omega
  split at h
  · next hboth =>
    obtain rfl := Option.some.inj h
    have hle := le_roundEven (v / d) (v % d) d
    have hpos := Nat.pos_of_ne_zero (hbelow (Bool.and_eq_true_iff.1 hboth).1)
    exact (Nat.lt_of_lt_of_le hpos hle).ne'
  · split at h
    · next hholds =>
      obtain rfl := Option.some.inj h
      exact hbelow hholds
    · split at h
      · obtain rfl := Option.some.inj h
        exact Nat.succ_ne_zero _
      · cases h

theorem low_interval {x : Binary64} (h : x.mantissa ≠ 0) : 0 < x.interval.low := by
  refine Nat.mul_pos ?_ (Nat.pow_pos (by decide))
  split <;> omega

/-- Closing zeros left off, the digits of a positive number are still there and do not begin with a zero. -/
theorem digits_onGridScientific {q : Nat} (h : q ≠ 0) (unit : Int) :
    Digits (onGridScientific q unit).digits ∧ (onGridScientific q unit).digits.head? ≠ some '0' := by
  obtain ⟨c, hc, hne⟩ := head?_toDigits h
  obtain ⟨ds, hds⟩ := List.head?_eq_some_iff.1 hc
  have htrim : (onGridScientific q unit).digits = trimRightIf (· = '0') (Nat.toDigits 10 q) := rfl
  obtain ⟨zeros, hzeros⟩ := trimRightIf_prefix (fun c => decide (c = '0')) (Nat.toDigits 10 q)
  have hnonempty : trimRightIf (· = '0') (Nat.toDigits 10 q) ≠ [] := by
    intro hnil
    have hall := List.dropWhile_eq_nil_iff.1 (List.reverse_eq_nil_iff.1 hnil)
    exact hne (by simpa using hall c (by simp [hds]))
  rw [htrim]
  refine ⟨⟨hnonempty, fun d hd => isDigit_of_mem_toDigits (n := q) (hzeros ▸ List.mem_append_left zeros hd)⟩, fun hzero => ?_⟩
  rw [← hzeros, List.head?_append, hzero] at hc
  exact hne (Option.some.inj hc).symm

/-- **The digits of the shortest decimal** do not begin with a zero; where no decimal of seventeen digits were near enough, a zero
alone would be written. -/
theorem digits_shortest {x : Binary64} (h : x.mantissa ≠ 0) :
    Digits x.shortest.digits ∧ (x.shortest.digits.head? ≠ some '0' ∨ x.shortest = ⟨['0'], 0⟩) := by
  simp only [shortest]
  cases hhit : (List.range 17).findSome? _ with
  | none => exact ⟨⟨by simp, by simp [isDigit]⟩, .inr rfl⟩
  | some s =>
    obtain ⟨n, -, hn⟩ := List.exists_of_findSome?_eq_some hhit
    obtain ⟨q, hq, rfl⟩ := Option.map_eq_some_iff.1 hn
    obtain ⟨hdigits, hfirst⟩ := digits_onGridScientific (onGrid_ne_zero (low_interval h) hq) _
    exact ⟨hdigits, .inl hfirst⟩

end Decimal.Binary64

namespace Json

open AdConfirm.Decimal

/-! ## Layouts -/

/-- the text of a number without its sign that has decimals or a power of ten -/
inductive Pointed : List Char → Prop where
  | mk {whole fraction power : List Char} (hw : Whole whole) (hf : Fraction fraction) (hp : Power power)
      (h : fraction ++ power ≠ []) : Pointed (whole ++ (fraction ++ power))

theorem Pointed.magnitude {n : List Char} (h : Pointed n) : Magnitude n := by
  obtain ⟨hw, hf, hp, -⟩ := h
  exact .mk hw hf hp

theorem pointed_decimals {whole ds : List Char} (hw : Whole whole) (h : Digits ds) : Pointed (whole ++ '.' :: ds) := by
  have hpointed := Pointed.mk hw (.decimals h) .absent (by simp)
  rwa [List.append_nil] at hpointed

theorem whole_zero : Whole ['0'] := ⟨⟨by simp, by simp [isDigit]⟩, fun _ => rfl⟩

theorem isDigit_of_mem_zeros {n : Nat} {c : Char} (h : c ∈ List.replicate n '0') : isDigit c = true := by
  rw [(List.mem_replicate.1 h).2]
  rfl

/-- Digits with a point between them, or zeros filled in up to it. -/
theorem pointed_pointAfter {ds : List Char} (h : Digits ds) {n : Int} (hfirst : ds.head? ≠ some '0' ∨ ds = ['0'] ∧ n = 1) :
    Pointed (pointAfter n ds) := by
  obtain ⟨c, rest, rfl⟩ := List.exists_cons_of_ne_nil h.nonempty
  unfold pointAfter
  split
  · exact pointed_decimals whole_zero ⟨by simp, List.forall_mem_append.2 ⟨fun _ => isDigit_of_mem_zeros, h.digits⟩⟩
  · next hn =>
    obtain ⟨k, hk⟩ : ∃ k, n.toNat = k + 1 := ⟨n.toNat - 1, by omega⟩
    simp only [hk]
    refine pointed_decimals ⟨⟨by simp, ?_⟩, ?_⟩ ?_
    · exact List.forall_mem_append.2 ⟨fun d hd => h.digits d (List.mem_of_mem_take hd), fun _ => isDigit_of_mem_zeros⟩
    · intro hzero
      rcases hfirst with hne | ⟨hds, rfl⟩
      · exact absurd hzero (by simpa using hne)
      · obtain ⟨rfl, rfl⟩ := List.cons.inj hds
        obtain rfl : k = 0 := by simpa using hk.symm
        rfl
    · split
      · exact whole_zero.toDigits
      · next hsome => exact ⟨by simpa using hsome, fun d hd => h.digits d (List.mem_of_mem_drop hd)⟩

/-- Digits with a power of ten behind them. -/
theorem pointed_withPower {s : Scientific} (h : Digits s.digits) : Pointed (withPower s) := by
  obtain ⟨ds, exponent⟩ := s
  obtain ⟨c, rest, rfl⟩ := List.exists_cons_of_ne_nil h.nonempty
  have hpower : ∃ power, Power power ∧ power ≠ [] ∧
      'e' :: (if exponent < 0 then '-' :: Nat.toDigits 10 (-exponent).toNat else '+' :: Nat.toDigits 10 exponent.toNat) =
        power := by
    split
    · exact ⟨_, .signed (.inr rfl) (digits_toDigits _), by simp, rfl⟩
    · exact ⟨_, .signed (.inl rfl) (digits_toDigits _), by simp, rfl⟩
  obtain ⟨power, hp, hne, heq⟩ := hpower
  have hwhole : Whole [c] := ⟨⟨by simp, by simpa using h.digits c List.mem_cons_self⟩, fun hzero => by simpa using hzero⟩
  simp only [withPower, heq]
  cases rest with
  | nil => exact .mk hwhole .absent hp (by simpa using hne)
  | cons d rest =>
    have hdecimals : Digits (d :: rest) := ⟨by simp, fun e he => h.digits e (List.mem_cons_of_mem c he)⟩
    exact .mk hwhole (.decimals hdecimals) hp (by simp)

/-- **A double is written with decimals or a power of ten**, behind its sign. -/
theorem exists_pointed_render (l : Layout) (x : Binary64) :
    ∃ n, Pointed n ∧ l.render x = if x.negative then '-' :: n else n := by
  refine ⟨_, ?_, rfl⟩
  split
  · exact pointed_decimals whole_zero whole_zero.toDigits
  · next hx =>
    obtain ⟨hdigits, hfirst⟩ := Binary64.digits_shortest hx
    simp only
    split
    · refine pointed_pointAfter hdigits ?_
      rcases hfirst with hne | hzero
      · exact .inl hne
      · exact .inr (by simp [hzero])
    · exact pointed_withPower hdigits

/-! ## Reading -/

/-- What stands behind the whole part makes a number a double; a minus sign in front does not matter. -/
theorem isFloat_ofText {s : List Char} (h : s.head? ≠ some '-') :
    (Number.Parts.ofText s).isFloat = !(s.dropWhile isDigit).isEmpty ∧
      (Number.Parts.ofText ('-' :: s)).isFloat = !(s.dropWhile isDigit).isEmpty := by
  refine ⟨?_, rfl⟩
  unfold Number.Parts.ofText
  split
  next negative s' hsign =>
  have hplain : (false, s) = (negative, s') := by
    rw [← hsign]
    clear hsign
    split
    · exact absurd rfl h
    · rfl
  obtain ⟨rfl, rfl⟩ := Prod.mk.inj hplain
  rfl

/-- A number with decimals or a power of ten is read as a double, behind a minus sign as well. -/
theorem Pointed.isFloat {n : List Char} (h : Pointed n) :
    (Number.Parts.ofText n).isFloat = true ∧ (Number.Parts.ofText ('-' :: n)).isFloat = true := by
  obtain ⟨c, ds, hn, hc⟩ := h.magnitude.begins
  have hplain : n.head? ≠ some '-' := by
    rw [hn]
    rintro hsign
    obtain rfl := Option.some.inj hsign
    cases hc
  obtain ⟨hw, hf, hp, hne⟩ := h
  obtain ⟨-, hdrop⟩ := takeWhile_digits hw.digits fun c hc => by
    have hrest := head?_fraction hf hp ends_nil (c := c)
    rw [List.append_nil] at hrest
    exact hrest hc
  rw [(isFloat_ofText hplain).1, (isFloat_ofText hplain).2, hdrop]
  simpa using hne

/-- **A written double is read as a double**, if at all. -/
theorem exists_float_of_render {l : Layout} {x : Binary64} {m : Number} (h : Number.ofText? (l.render x) = some m) :
    ∃ y, m = .float y := by
  obtain ⟨n, hn, heq⟩ := exists_pointed_render l x
  have hfloat : (Number.Parts.ofText (l.render x)).isFloat = true := by
    rw [heq]
    split
    · exact hn.isFloat.2
    · exact hn.isFloat.1
  simp only [Number.ofText?, hfloat, if_true, Option.map_eq_some_iff] at h
  obtain ⟨y, -, rfl⟩ := h
  exact ⟨y, rfl⟩

end Json

end AdConfirm
