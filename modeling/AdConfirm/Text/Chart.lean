import AdConfirm.Text.Ascii
import AdConfirm.Text.Split

/-!
Charts of code points, in hexadecimal: ranges of what belongs to a class, and rows of what single code points stand for.
-/

namespace AdConfirm.Text

def wordsOf (lines : List String) : List (List Char) := lines.flatMap fun l => splitIf (· = ' ') l.toList

/-- inclusive ranges of code points -/
abbrev Ranges := List (Nat × Nat)

namespace Ranges

/-- a range is one code point, or two with a hyphen between them -/
def range? (s : List Char) : Option (Nat × Nat) :=
  match cutAt '-' s with
  | some (first, last) => do return (← numeral? 16 first, ← numeral? 16 last)
  | none => (numeral? 16 s).map fun n => (n, n)

/-- the ranges that some lines name, with blanks between them -/
def ofLines (lines : List String) : Ranges := (wordsOf lines).filterMap range?

def contains (rs : Ranges) (c : Char) : Bool := rs.any fun r => r.1 ≤ c.toNat && c.toNat ≤ r.2

end Ranges

/-- consecutive code points from the first one on, and the text that each stands for -/
structure Row where
  first : Nat
  texts : List (List Char)

namespace Row

/-- a text is its code points with dots between them -/
def text? (s : List Char) : Option (List Char) := (splitIf (· = '.') s).mapM fun p => (numeral? 16 p).map Char.ofNat

/-- a row is its first code point, an equals sign, and texts with commas between them -/
def read? (s : List Char) : Option Row := do
  let (first, texts) ← cutAt '=' s
  return ⟨← numeral? 16 first, ← (splitIf (· = ',') texts).mapM text?⟩

/-- the rows that some lines name, with blanks between them -/
def ofLines (lines : List String) : List Row := (wordsOf lines).filterMap read?

def find? (r : Row) (c : Char) : Option (List Char) := if r.first ≤ c.toNat then r.texts[c.toNat - r.first]? else none

/-- the code points of a row with what they stand for -/
def entries (r : Row) : List (Char × List Char) := r.texts.zipIdx.map fun t => (Char.ofNat (r.first + t.2), t.1)

end Row

end AdConfirm.Text
