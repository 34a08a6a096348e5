import AdConfirm.Json.Printer
import AdConfirm.Json.Reader
import AdConfirm.Proofs.Json.Numeral
import AdConfirm.Proofs.Text

/-!
What is printed is read back.

A printed string is read back character by character, whatever had to be escaped. A printed tree is cut into the tokens it is
made of, and these make up the tree again. So the text of a tree whose strings are whole and whose numbers are numerals is read as
this tree, at any depth.

- `scanText_printText`: a string.
- `Legible`: trees that a text can hold. `Tree.tokens`: the tokens of a tree.
- `scan_print`: the text of a tree is cut into its tokens. `foldlM_tokens`: the tokens of a tree make it up.
- `read?_print`: a legible tree is read back. `not_blank_of_read?`: a text that is read is not blank.
-/

namespace AdConfirm.Json

open AdConfirm.Text

/-! ## Strings -/

theorem unit?_control : ∀ n < 32, unit? '0' '0' (hexDigit (n / 16)) (hexDigit (n % 16)) = some n := by decide

/-- A character is read back from what it is escaped as. -/
theorem scanText_escapedChar (acc : List Piece) (c : Char) (rest : List Char) :
    scanText acc (escapedChar c ++ rest) = scanText (.char c :: acc) rest := by
  unfold escapedChar
  split_ifs with hquote hback hb hf hn hr ht hcontrol
  · subst hquote; rfl
  · subst hback; rfl
  · subst hb; rfl
  · subst hf; rfl
  · subst hn; rfl
  · subst hr; rfl
  · subst ht; rfl
  · have hlt : c.toNat < 32 := hcontrol
    have hpiece : Piece.ofUnit c.toNat = .char c := by
      have hno : ¬ (0xd800 ≤ c.toNat ∧ c.toNat ≤ 0xdfff) := by omega
      rw [Piece.ofUnit, if_neg hno, Char.ofNat_toNat]
    simp only [List.cons_append, List.nil_append]
    rw [scanText, unit?_control c.toNat hlt]
    simp only [hpiece]
  · rw [List.cons_append, List.nil_append, scanText]
    · simp [hquote, hback, hcontrol]
    · exact fun a b c' d rest' h => absurd h hback
    · exact fun c' rest' h => absurd h hback

theorem scanText_flatMap (acc : List Piece) (s : List Char) (rest : List Char) :
    scanText acc (s.flatMap escapedChar ++ '"' :: rest) = some ((s.map Piece.char).reverse ++ acc, rest) := by
  induction s generalizing acc with
  | nil => rfl
  | cons c s ih =>
    rw [List.flatMap_cons, List.append_assoc, scanText_escapedChar, ih]
    simp

theorem joined?_chars (acc : List Char) (s : List Char) : Piece.joined? acc (s.map .char) = some (acc.reverse ++ s) := by
  induction s generalizing acc with
  | nil => simp [Piece.joined?]
  | cons c s ih =>
    rw [List.map_cons, Piece.joined?, ih]
    simp

/-- **A printed string is read back.** -/
theorem next?_printText (s : String) (rest : List Char) :
    Token.next? (printText s.toList ++ rest) = some (.text (some s), rest) := by
  have hscan := scanText_flatMap [] s.toList rest
  have hnext : Token.next? ('"' :: (s.toList.flatMap escapedChar ++ '"' :: rest)) =
      some (.text (some s), rest) := by
    simp [Token.next?, hscan, joined?_chars]
  simpa [printText] using hnext

/-! ## Trees and their tokens -/

/-- a tree that a text can hold: its strings are whole, and its numbers are numerals -/
inductive Legible : Tree → Prop where
  | null : Legible .null
  | bool (b : Bool) : Legible (.bool b)
  | number {n : List Char} (h : Numeral n) : Legible (.number n)
  | text (s : String) : Legible (.text (some s))
  | array {items : List Tree} (h : ∀ t ∈ items, Legible t) : Legible (.array items)
  | object {fields : List (Written × Tree)} (hk : ∀ f ∈ fields, f.1.isSome) (h : ∀ f ∈ fields, Legible f.2) :
      Legible (.object fields)

/-- An object of legible fields is legible. -/
theorem legible_ofFields {fields : List (String × Tree)} (h : ∀ f ∈ fields, Legible f.2) : Legible (.ofFields fields) := by
  refine .object (fun f hf => ?_) (fun f hf => ?_)
  · obtain ⟨g, -, rfl⟩ := List.mem_map.1 hf
    rfl
  · obtain ⟨g, hg, rfl⟩ := List.mem_map.1 hf
    exact h g hg

/-- So is an array of items that are written legibly. -/
theorem legible_map {α : Type} {f : α → Tree} (h : ∀ a, Legible (f a)) (as : List α) : Legible (.array (as.map f)) := by
  refine .array fun t ht => ?_
  obtain ⟨a, -, rfl⟩ := List.mem_map.1 ht
  exact h a

mutual

def Tree.tokens : Tree → List Token
  | .null => [.null]
  | .bool b => [.bool b]
  | .number n => [.number n]
  | .text s => [.text s]
  | .array items => .arrayStart :: itemTokens items ++ [.arrayEnd]
  | .object fields => .objectStart :: fieldTokens fields ++ [.objectEnd]

/-- the tokens of items with commas between them -/
def itemTokens : List Tree → List Token
  | [] => []
  | [t] => t.tokens
  | t :: rest => t.tokens ++ .comma :: itemTokens rest

/-- the tokens of fields with commas between them -/
def fieldTokens : List (Written × Tree) → List Token
  | [] => []
  | [(k, t)] => .text k :: .colon :: t.tokens
  | (k, t) :: rest => .text k :: .colon :: t.tokens ++ .comma :: fieldTokens rest

end

/-- A token without blanks in front of it is taken off. -/
theorem scan_token {s : List Char} {t : Token} {rest : List Char} (h : Token.next? s = some (t, rest))
    (hgap : ∀ c, s.head? = some c → isGap c = false) (acc : List Token) : Token.scan acc s = Token.scan (t :: acc) rest := by
  cases s with
  | nil => cases h
  | cons c s =>
    rw [Token.scan, if_neg (by simp [hgap c rfl])]
    split
    · next hnone =>
      rw [h] at hnone
      cases hnone
    · next t' r' hsome =>
      rw [h] at hsome
      cases hsome
      rfl

theorem scan_text (s : String) (acc : List Token) (rest : List Char) :
    Token.scan acc (printText s.toList ++ rest) = Token.scan (.text (some s) :: acc) rest := by
  refine scan_token (next?_printText s rest) (fun c hc => ?_) acc
  obtain rfl : '"' = c := Option.some.inj hc
  rfl

/-- characters that begin another token than a number, and blanks -/
def beginsOther : List Char := ['n', 't', 'f', '\x7b', '\x7d', '[', ']', ',', ':', '"', ' ', '\t', '\n', '\r']

theorem ne_of_begins {c : Char} (h : isDigit c = true ∨ c = '-') : ∀ d ∈ beginsOther, c ≠ d := by
  have hnone : beginsOther.all (fun d => !isDigit d && d != '-') = true := by decide
  rintro d hd rfl
  have hother := List.all_eq_true.1 hnone c hd
  rcases h with h | rfl
  · simp [h] at hother
  · cases hother

theorem scan_number {n : List Char} (h : Numeral n) (acc : List Token) {rest : List Char} (hrest : Ends rest) :
    Token.scan acc (n ++ rest) = Token.scan (.number n :: acc) rest := by
  obtain ⟨⟨c, hc, hkind⟩, hscan⟩ := h
  obtain ⟨cs, rfl⟩ := List.head?_eq_some_iff.1 hc
  have hne := ne_of_begins hkind
  simp only [beginsOther, List.mem_cons, List.not_mem_nil, or_false, forall_eq_or_imp, forall_eq] at hne
  obtain ⟨hn, ht, hf, hobject, hobject', harray, harray', hcomma, hcolon, hquote, hspace, htab, hline, hreturn⟩ := hne
  refine scan_token ?_ (fun d hd => ?_) acc
  · have hnumber := hscan rest hrest
    rw [List.cons_append] at hnumber ⊢
    rw [Token.next?]
    · simp [hobject, hobject', harray, harray', hcomma, hcolon, hquote, hnumber]
    · exact fun r h => absurd h hn
    · exact fun r h => absurd h ht
    · exact fun r h => absurd h hf
  · obtain rfl : c = d := Option.some.inj hd
    simp [isGap, hspace, htab, hline, hreturn]

/-- the text of a tree is cut into the tokens of the tree, in front of whatever can follow it -/
def Scans (t : Tree) : Prop :=
  ∀ acc rest, Ends rest → Token.scan acc (t.print ++ rest) = Token.scan (t.tokens.reverse ++ acc) rest

theorem ends_mark {c : Char} (h : c ∈ [',', ']', '\x7d']) (rest : List Char) : Ends (c :: rest) := by
  simp only [List.mem_cons, List.not_mem_nil, or_false] at h
  rcases h with rfl | rfl | rfl <;> exact ends_cons (by decide) rest

theorem scan_mark {c : Char} {t : Token} (h : ∀ rest, Token.next? (c :: rest) = some (t, rest)) (hgap : isGap c = false)
    (acc : List Token) (rest : List Char) : Token.scan acc (c :: rest) = Token.scan (t :: acc) rest := by
  refine scan_token (h rest) (fun d hd => ?_) acc
  obtain rfl : c = d := Option.some.inj hd
  exact hgap

theorem printItems_cons (t u : Tree) (rest : List Tree) :
    printItems (t :: u :: rest) = t.print ++ ',' :: printItems (u :: rest) := by
  rw [printItems]
  simp

theorem itemTokens_cons (t u : Tree) (rest : List Tree) :
    itemTokens (t :: u :: rest) = t.tokens ++ .comma :: itemTokens (u :: rest) := by
  rw [itemTokens]
  simp

theorem printFields_cons (k : Written) (t : Tree) (f : Written × Tree) (rest : List (Written × Tree)) :
    printFields ((k, t) :: f :: rest) = printWritten k ++ ':' :: (t.print ++ ',' :: printFields (f :: rest)) := by
  rw [printFields]
  · simp
  · simp

theorem fieldTokens_cons (k : Written) (t : Tree) (f : Written × Tree) (rest : List (Written × Tree)) :
    fieldTokens ((k, t) :: f :: rest) = .text k :: .colon :: (t.tokens ++ .comma :: fieldTokens (f :: rest)) := by
  rw [fieldTokens]
  · simp
  · simp

theorem scan_items {items : List Tree} (h : ∀ t ∈ items, Scans t) (acc : List Token) {rest : List Char} (hrest : Ends rest) :
    Token.scan acc (printItems items ++ rest) = Token.scan ((itemTokens items).reverse ++ acc) rest := by
  induction items generalizing acc with
  | nil => rfl
  | cons t items ih =>
    obtain ⟨ht, hitems⟩ := List.forall_mem_cons.1 h
    cases items with
    | nil => exact ht acc rest hrest
    | cons t' items =>
      have hcomma := scan_mark (c := ',') (t := .comma) (fun _ => rfl) rfl
      rw [printItems_cons, itemTokens_cons, List.append_assoc, List.cons_append, ht acc _ (ends_mark (by simp) _), hcomma,
        ih hitems]
      simp

theorem scan_fields {fields : List (Written × Tree)} (hk : ∀ f ∈ fields, f.1.isSome) (h : ∀ f ∈ fields, Scans f.2)
    (acc : List Token) {rest : List Char} (hrest : Ends rest) :
    Token.scan acc (printFields fields ++ rest) = Token.scan ((fieldTokens fields).reverse ++ acc) rest := by
  have hcomma := scan_mark (c := ',') (t := .comma) (fun _ => rfl) rfl
  have hcolon := scan_mark (c := ':') (t := .colon) (fun _ => rfl) rfl
  have hkey : ∀ (s : String) acc rest, Token.scan acc (printWritten (some s) ++ rest) = Token.scan (.text (some s) :: acc) rest :=
    fun s => scan_text s
  induction fields generalizing acc with
  | nil => rfl
  | cons f fields ih =>
    obtain ⟨k, t⟩ := f
    obtain ⟨hkhere, hkrest⟩ := List.forall_mem_cons.1 hk
    obtain ⟨ht, hfields⟩ := List.forall_mem_cons.1 h
    obtain ⟨s, rfl⟩ := Option.isSome_iff_exists.1 hkhere
    cases fields with
    | nil =>
      rw [printFields, fieldTokens, List.append_assoc, hkey, List.cons_append, hcolon, ht _ _ hrest]
      simp
    | cons f' fields =>
      rw [printFields_cons, fieldTokens_cons, List.append_assoc, hkey, List.cons_append, hcolon, List.append_assoc,
        List.cons_append, ht _ _ (ends_mark (by simp) _), hcomma, ih hkrest hfields]
      simp

/-- **The text of a legible tree is cut into its tokens.** -/
theorem scan_print {t : Tree} (h : Legible t) : Scans t := by
  induction h with
  | null => exact fun acc rest _ => scan_token (t := .null) rfl (by rintro c ⟨⟩; rfl) acc
  | bool b =>
    intro acc rest _
    cases b with
    | true => exact scan_token (t := .bool true) rfl (by rintro c ⟨⟩; rfl) acc
    | false => exact scan_token (t := .bool false) rfl (by rintro c ⟨⟩; rfl) acc
  | number h => exact fun acc rest => scan_number h acc
  | text s => exact fun acc rest _ => scan_text s acc rest
  | @array items h ih =>
    intro acc rest _
    have hopen := scan_mark (c := '[') (t := .arrayStart) (fun _ => rfl) rfl
    have hclose := scan_mark (c := ']') (t := .arrayEnd) (fun _ => rfl) rfl
    rw [Tree.print, List.cons_append, List.cons_append, List.append_assoc, hopen, List.cons_append, List.nil_append,
      scan_items ih _ (ends_mark (by simp) rest), hclose]
    simp [Tree.tokens]
  | @object fields hk h ih =>
    intro acc rest _
    have hopen := scan_mark (c := '\x7b') (t := .objectStart) (fun _ => rfl) rfl
    have hclose := scan_mark (c := '\x7d') (t := .objectEnd) (fun _ => rfl) rfl
    rw [Tree.print, List.cons_append, List.cons_append, List.append_assoc, hopen, List.cons_append, List.nil_append,
      scan_fields hk ih _ (ends_mark (by simp) rest), hclose]
    simp [Tree.tokens]

/-! ## Tokens made up to a tree -/

/-- the tokens of a tree are read where a value is due, and make it up -/
def Reads (t : Tree) : Prop := ∀ stack, t.tokens.foldlM Expect.step (.value stack) = some (.after t stack)

theorem begins_tokens (t : Tree) : ∃ tok toks, t.tokens = tok :: toks ∧ tok ≠ .arrayEnd := by
  cases t <;> exact ⟨_, _, rfl, by simp⟩

/-- In an array, the first item is read like every other value. -/
theorem foldlM_firstItem (t : Tree) (more : List Token) (stack : List Frame) :
    (t.tokens ++ more).foldlM Expect.step (.itemOrEnd stack) =
      (t.tokens ++ more).foldlM Expect.step (.value (.items [] :: stack)) := by
  obtain ⟨tok, toks, htokens, hne⟩ := begins_tokens t
  have hstep : Expect.step (.itemOrEnd stack) tok = Expect.step (.value (.items [] :: stack)) tok := by
    cases tok <;> first | rfl | exact absurd rfl hne
  rw [htokens, List.cons_append, List.foldlM_cons, List.foldlM_cons, hstep]

theorem foldlM_items {t : Tree} {items : List Tree} (h : ∀ u ∈ t :: items, Reads u) (before : List Tree) (stack : List Frame) :
    (itemTokens (t :: items) ++ [Token.arrayEnd]).foldlM Expect.step (.value (.items before :: stack)) =
      some (.after (.array (before.reverse ++ t :: items)) stack) := by
  induction items generalizing t before with
  | nil =>
    rw [itemTokens, List.foldlM_append, h t List.mem_cons_self]
    simp [Expect.step]
  | cons u items ih =>
    obtain ⟨ht, hitems⟩ := List.forall_mem_cons.1 h
    rw [itemTokens_cons, List.append_assoc, List.foldlM_append, ht]
    have hrest := ih hitems (t :: before)
    simpa [Expect.step] using hrest

theorem foldlM_fields {f : Written × Tree} {fields : List (Written × Tree)} (h : ∀ g ∈ f :: fields, Reads g.2)
    (before : List (Written × Tree)) (stack : List Frame) :
    (fieldTokens (f :: fields) ++ [Token.objectEnd]).foldlM Expect.step (.key before stack) =
      some (.after (.object (before.reverse ++ f :: fields)) stack) := by
  induction fields generalizing f before with
  | nil =>
    obtain ⟨k, t⟩ := f
    have ht := h (k, t) List.mem_cons_self (.fields before k :: stack)
    simp [fieldTokens, Expect.step, ht]
  | cons g fields ih =>
    obtain ⟨k, t⟩ := f
    obtain ⟨hf, hfields⟩ := List.forall_mem_cons.1 h
    have ht := hf (.fields before k :: stack)
    have hrest := ih hfields ((k, t) :: before)
    rw [fieldTokens_cons]
    simpa [Expect.step, List.foldlM_append, ht] using hrest

/-- **The tokens of a legible tree make it up.** -/
theorem foldlM_tokens {t : Tree} (h : Legible t) : Reads t := by
  induction h with
  | null => exact fun stack => rfl
  | bool b => exact fun stack => rfl
  | number h => exact fun stack => rfl
  | text s => exact fun stack => rfl
  | @array items h ih =>
    intro stack
    cases items with
    | nil => rfl
    | cons t items =>
      have hitems := foldlM_items ih [] stack
      have hfirst : (itemTokens (t :: items) ++ [Token.arrayEnd]).foldlM Expect.step (.itemOrEnd stack) =
          (itemTokens (t :: items) ++ [Token.arrayEnd]).foldlM Expect.step (.value (.items [] :: stack)) := by
        cases items with
        | nil => exact foldlM_firstItem t [.arrayEnd] stack
        | cons u items =>
          rw [itemTokens_cons, List.append_assoc]
          exact foldlM_firstItem t _ stack
      rw [Tree.tokens, List.cons_append, List.foldlM_cons]
      exact hfirst.trans hitems
  | @object fields hk h ih =>
    intro stack
    cases fields with
    | nil => rfl
    | cons f fields =>
      have hfields := foldlM_fields ih [] stack
      have hfirst : (fieldTokens (f :: fields) ++ [Token.objectEnd]).foldlM Expect.step (.keyOrEnd stack) =
          (fieldTokens (f :: fields) ++ [Token.objectEnd]).foldlM Expect.step (.key [] stack) := by
        obtain ⟨k, t⟩ := f
        cases fields with
        | nil => rfl
        | cons g fields =>
          rw [fieldTokens_cons]
          rfl
      rw [Tree.tokens, List.cons_append, List.foldlM_cons]
      exact hfirst.trans hfields

/-- **What is printed is read back**: the text of a legible tree is read as this tree. -/
theorem read?_print {t : Tree} (h : Legible t) : Tree.read? t.print = some t := by
  have hscan := scan_print h [] [] ends_nil
  rw [List.append_nil, List.append_nil] at hscan
  have htokens : tokens? t.print = some t.tokens := by
    rw [tokens?, hscan, Token.scan, List.reverse_reverse]
  simp [Tree.read?, htokens, foldlM_tokens h [], Expect.done?]

/-! ## Blank texts -/

/-- White space begins no token. -/
theorem next?_blank {c : Char} (hblank : isBlank c = true) (rest : List Char) : Token.next? (c :: rest) = none := by
  have hdigit : isDigit c = false := by
    by_contra hdigit
    have hnot := not_blank_of_isDigit (Bool.not_eq_false _ ▸ hdigit)
    rw [hblank] at hnot
    cases hnot
  have hne : ∀ d, isBlank d = false → c ≠ d := by
    rintro d hd rfl
    rw [hd] at hblank
    cases hblank
  have hnumber : scanNumber (c :: rest) = none := by
    rw [scanNumber, scanMagnitude, scanWhole]
    · simp [hdigit]
    · exact hne '0' rfl
    · exact fun r h => hne '-' rfl (List.cons.inj h).1
  rw [Token.next?]
  · simp [hne '\x7b' rfl, hne '\x7d' rfl, hne '[' rfl, hne ']' rfl, hne ',' rfl, hne ':' rfl, hne '"' rfl, hnumber]
  · exact fun r h => absurd h (hne 'n' rfl)
  · exact fun r h => absurd h (hne 't' rfl)
  · exact fun r h => absurd h (hne 'f' rfl)

/-- A blank text has no token. -/
theorem tokens?_blank {s : List Char} (h : isBlankText s = true) {toks : List Token} (htoks : tokens? s = some toks) :
    toks = [] := by
  unfold tokens? at htoks
  induction s with
  | nil =>
    rw [Token.scan] at htoks
    exact (Option.some.inj htoks).symm
  | cons c rest ih =>
    rw [isBlankText, List.all_cons, Bool.and_eq_true] at h
    rw [Token.scan] at htoks
    cases hgap : isGap c with
    | true =>
      rw [if_pos hgap] at htoks
      exact ih h.2 htoks
    | false =>
      rw [if_neg (by simp [hgap])] at htoks
      split at htoks
      · cases htoks
      · next hfound =>
        rw [next?_blank h.1] at hfound
        cases hfound

/-- A text that is read is not blank. -/
theorem not_blank_of_read? {s : List Char} {t : Tree} (h : Tree.read? s = some t) : isBlankText s = false := by
  by_contra hblank
  obtain ⟨toks, htoks, hread⟩ := Option.bind_eq_some_iff.1 h
  obtain rfl := tokens?_blank (Bool.not_eq_false _ ▸ hblank) htoks
  cases hread

end AdConfirm.Json
