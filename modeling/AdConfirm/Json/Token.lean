import AdConfirm.Json.Tree
import AdConfirm.Text.Ascii

/-!
Tokens of JSON. A text is cut into tokens from left to right, each as long as it can be; blanks between them are dropped.
-/

namespace AdConfirm.Json

open AdConfirm.Text

inductive Token where
  | objectStart
  | objectEnd
  | arrayStart
  | arrayEnd
  | comma
  | colon
  | null
  | bool (b : Bool)
  | number (text : List Char)
  | text (s : Written)
  deriving DecidableEq

/-- space, tab, line feed and carriage return -/
def isGap (c : Char) : Bool := c = ' ' || c = '\t' || c = '\n' || c = '\r'

/-- what stands for one character of a string: a character, or half of a surrogate pair -/
inductive Piece where
  | char (c : Char)
  | half (unit : Nat)
  deriving DecidableEq

/-- the piece that a 16-bit unit names -/
def Piece.ofUnit (n : Nat) : Piece := if 0xd800 ≤ n ∧ n ≤ 0xdfff then .half n else .char (Char.ofNat n)

/-- joins the halves of pairs; none if a half is left over -/
def Piece.joined? (acc : List Char) : List Piece → Option (List Char)
  | [] => some acc.reverse
  | .char c :: rest => joined? (c :: acc) rest
  | .half h :: .half l :: rest =>
    if h ≤ 0xdbff ∧ 0xdc00 ≤ l then
      joined? (Char.ofNat (0x10000 + (h - 0xd800) * 0x400 + (l - 0xdc00)) :: acc) rest
    else none
  | [.half _] => none
  | .half _ :: .char _ :: _ => none

/-- the character that a one-letter escape stands for -/
def escaped? (c : Char) : Option Char :=
  if c = '"' ∨ c = '\\' ∨ c = '/' then some c
  else if c = 'b' then some '\x08'
  else if c = 'f' then some '\x0c'
  else if c = 'n' then some '\n'
  else if c = 'r' then some '\r'
  else if c = 't' then some '\t'
  else none

/-- the unit that four hexadecimal digits give -/
def unit? (a b c d : Char) : Option Nat := numeral? 16 [a, b, c, d]

/-- reads a string up to its closing quote, pieces newest first -/
def scanText (acc : List Piece) : List Char → Option (List Piece × List Char)
  | [] => none
  | '\\' :: 'u' :: a :: b :: c :: d :: rest =>
    match unit? a b c d with
    | some n => scanText (Piece.ofUnit n :: acc) rest
    | none => none
  | '\\' :: c :: rest =>
    match escaped? c with
    | some e => scanText (.char e :: acc) rest
    | none => none
  | c :: rest =>
    if c = '"' then some (acc, rest)
    else if c = '\\' ∨ c < ' ' then none
    else scanText (.char c :: acc) rest

/-- digits of the whole part: a zero alone, or digits that do not begin with one -/
def scanWhole : List Char → Option (List Char × List Char)
  | '0' :: rest => some (['0'], rest)
  | c :: rest => if isDigit c then some (c :: rest.takeWhile isDigit, rest.dropWhile isDigit) else none
  | [] => none

def scanDigits (s : List Char) : Option (List Char × List Char) :=
  if (s.takeWhile isDigit).isEmpty then none else some (s.takeWhile isDigit, s.dropWhile isDigit)

/-- a point and decimals, if a point follows -/
def scanFraction : List Char → Option (List Char × List Char)
  | '.' :: rest => (scanDigits rest).map fun r => ('.' :: r.1, r.2)
  | rest => some ([], rest)

def scanPower : List Char → Option (List Char × List Char)
  | [] => some ([], [])
  | e :: rest =>
    if e = 'e' ∨ e = 'E' then
      match rest with
      | [] => none
      | sign :: rest' =>
        if sign = '+' ∨ sign = '-' then (scanDigits rest').map fun r => (e :: sign :: r.1, r.2)
        else (scanDigits rest).map fun r => (e :: r.1, r.2)
    else some ([], e :: rest)

/-- a number without its sign -/
def scanMagnitude (s : List Char) : Option (List Char × List Char) := do
  let (whole, s) ← scanWhole s
  let (fraction, s) ← scanFraction s
  let (power, s) ← scanPower s
  return (whole ++ fraction ++ power, s)

def scanNumber : List Char → Option (List Char × List Char)
  | '-' :: rest => (scanMagnitude rest).map fun r => ('-' :: r.1, r.2)
  | s => scanMagnitude s

/-- the token at the start of a text, and what follows it -/
def Token.next? : List Char → Option (Token × List Char)
  | 'n' :: 'u' :: 'l' :: 'l' :: rest => some (.null, rest)
  | 't' :: 'r' :: 'u' :: 'e' :: rest => some (.bool true, rest)
  | 'f' :: 'a' :: 'l' :: 's' :: 'e' :: rest => some (.bool false, rest)
  | c :: rest =>
    if c = '\x7b' then some (.objectStart, rest)
    else if c = '\x7d' then some (.objectEnd, rest)
    else if c = '[' then some (.arrayStart, rest)
    else if c = ']' then some (.arrayEnd, rest)
    else if c = ',' then some (.comma, rest)
    else if c = ':' then some (.colon, rest)
    else if c = '"' then
      (scanText [] rest).map fun r => (.text ((Piece.joined? [] r.1.reverse).map String.ofList), r.2)
    else (scanNumber (c :: rest)).map fun r => (.number r.1, r.2)
  | [] => none

theorem length_scanText {acc : List Piece} {s : List Char} {ps : List Piece} {r : List Char}
    (h : scanText acc s = some (ps, r)) : r.length < s.length := by
  fun_induction scanText acc s with
  | case1 => simp at h
  | case2 acc a b c d rest n hn ih => have := ih h; simp; omega
  | case3 => simp at h
  | case4 acc c rest hc e he ih => have := ih h; simp; omega
  | case5 => simp at h
  | case6 acc rest _ _ => simp at h; simp [h]
  | case7 => simp at h
  | case8 acc c rest _ _ _ _ ih => have := ih h; simp; omega

theorem length_dropWhile_le (p : Char → Bool) (s : List Char) : (s.dropWhile p).length ≤ s.length :=
  (List.dropWhile_suffix p).length_le

theorem length_scanWhole {s ds r : List Char} (h : scanWhole s = some (ds, r)) : r.length < s.length := by
  unfold scanWhole at h
  split at h
  · simp at h; simp [h]
  · next c rest _ =>
    split at h
    · simp at h; have := length_dropWhile_le isDigit rest; simp [← h.2]; omega
    · simp at h
  · simp at h

theorem length_scanDigits {s ds r : List Char} (h : scanDigits s = some (ds, r)) : r.length ≤ s.length := by
  unfold scanDigits at h
  split at h
  · simp at h
  · simp at h; rw [← h.2]; exact length_dropWhile_le _ _

theorem length_scanFraction {s ds r : List Char} (h : scanFraction s = some (ds, r)) : r.length ≤ s.length := by
  unfold scanFraction at h
  split at h
  · simp only [Option.map_eq_some_iff, Prod.mk.injEq] at h
    obtain ⟨⟨a, b⟩, hab, _, rfl⟩ := h
    have := length_scanDigits hab
    simp; omega
  · simp at h; simp [h]

theorem length_scanPower {s ds r : List Char} (h : scanPower s = some (ds, r)) : r.length ≤ s.length := by
  unfold scanPower at h
  split at h
  · simp at h; simp [h]
  · split at h
    · split at h
      · simp at h
      · split at h
        all_goals
          simp only [Option.map_eq_some_iff, Prod.mk.injEq] at h
          obtain ⟨⟨a, b⟩, hab, _, rfl⟩ := h
          have := length_scanDigits hab
          simp at this ⊢; omega
    · simp at h; simp [← h.2]

theorem length_scanMagnitude {s ds r : List Char} (h : scanMagnitude s = some (ds, r)) : r.length < s.length := by
  simp only [scanMagnitude, Option.bind_eq_bind, Option.pure_def, Option.bind_eq_some_iff, Option.some.injEq,
    Prod.mk.injEq, Prod.exists] at h
  obtain ⟨_, s₁, h₁, _, s₂, h₂, _, s₃, h₃, _, rfl⟩ := h
  have := length_scanWhole h₁
  have := length_scanFraction h₂
  have := length_scanPower h₃
  omega

theorem length_scanNumber {s ds r : List Char} (h : scanNumber s = some (ds, r)) : r.length < s.length := by
  unfold scanNumber at h
  split at h
  · simp only [Option.map_eq_some_iff, Prod.mk.injEq] at h
    obtain ⟨⟨a, b⟩, hab, _, rfl⟩ := h
    have := length_scanMagnitude hab
    simp; omega
  · exact length_scanMagnitude h

/-- A token takes at least one character. -/
theorem Token.length_next? {s : List Char} {t : Token} {r : List Char} (h : Token.next? s = some (t, r)) :
    r.length < s.length := by
  unfold Token.next? at h
  split at h
  · simp at h; simp [← h.2]; omega
  · simp at h; simp [← h.2]; omega
  · simp at h; simp [← h.2]; omega
  · next c rest _ _ _ =>
    by_cases hq : c = '"'
    · subst hq
      simp only [Char.reduceEq, if_false, if_true, Option.map_eq_some_iff, Prod.mk.injEq] at h
      obtain ⟨⟨a, b⟩, hab, _, rfl⟩ := h
      have := length_scanText hab
      simp; omega
    · simp only [if_neg hq] at h
      repeat' split at h
      case isFalse =>
        simp only [Option.map_eq_some_iff, Prod.mk.injEq] at h
        obtain ⟨⟨a, b⟩, hab, _, rfl⟩ := h
        exact length_scanNumber hab
      all_goals
        simp only [Option.some.injEq, Prod.mk.injEq] at h
        rw [← h.2]; simp
  · simp at h

/-- the tokens of a text, in front of them those already found, newest first -/
def Token.scan (acc : List Token) (s : List Char) : Option (List Token) :=
  match s with
  | [] => some acc.reverse
  | c :: rest =>
    if isGap c then Token.scan acc rest
    else match _found : Token.next? (c :: rest) with
      | none => none
      | some (t, r) => Token.scan (t :: acc) r
termination_by s.length
decreasing_by
  · simp
  · exact Token.length_next? ‹_›

def tokens? (s : List Char) : Option (List Token) := Token.scan [] s

end AdConfirm.Json
