/-!
Labels beyond ASCII written in ASCII (Punycode): the ASCII characters first, then the others in increasing order of their
code points, each as the distance from the one before, in digits of base 36 whose thresholds adapt to the distances seen.
-/

namespace AdConfirm.Url.Punycode

/-- digit of a value below 36 -/
def digit (n : Nat) : Char := if n < 26 then Char.ofNat (97 + n) else Char.ofNat (22 + n)

/-- value of a digit, in either case -/
def value? (c : Char) : Option Nat :=
  let n := c.toNat
  if 97 ≤ n ∧ n ≤ 122 then some (n - 97)
  else if 65 ≤ n ∧ n ≤ 90 then some (n - 65)
  else if 48 ≤ n ∧ n ≤ 57 then some (n - 22)
  else none

/-- threshold of the digit at a position, under a bias -/
def threshold (position bias : Nat) : Nat := min 26 (max 1 (position - bias))

/-- how often a distance is scaled down, and what is left -/
def scaled (delta k : Nat) : Nat × Nat := if 455 < delta then scaled (delta / 35) (k + 36) else (delta, k)
termination_by delta
decreasing_by exact Nat.div_lt_self (by omega) (by omega)

/-- the bias after a distance; the first one counts less -/
def adapt (delta count : Nat) (first : Bool) : Nat :=
  let delta := if first then delta / 700 else delta / 2
  let (delta, k) := scaled (delta + delta / count) 0
  k + 36 * delta / (delta + 38)

def distance (bias position q : Nat) : List Char :=
  let t := threshold position bias
  if q < t then [digit q] else digit (t + (q - t) % (36 - t)) :: distance bias (position + 36) ((q - t) / (36 - t))
termination_by q
decreasing_by
  have : 1 ≤ threshold position bias := by unfold threshold; omega
  exact Nat.lt_of_le_of_lt (Nat.div_le_self _ _) (by omega)

/-- what is written so far, the distance in the making, the bias, and how many characters are covered -/
structure Progress where
  written : List Char
  delta : Nat
  bias : Nat
  covered : Nat

/-- passes over one character on the way to those of code point `n` -/
def Progress.pass (basic n : Nat) (p : Progress) (c : Char) : Progress :=
  if c.toNat < n then { p with delta := p.delta + 1 }
  else if c.toNat = n then
    ⟨p.written ++ distance p.bias 36 p.delta, 0, adapt p.delta (p.covered + 1) (p.covered = basic), p.covered + 1⟩
  else p

/-- covers the characters of the given code points, which increase, the code points below `n` being covered -/
def Progress.cover (label : List Char) (basic : Nat) : Nat → List Nat → Progress → Progress
  | _, [], p => p
  | n, m :: rest, p =>
    let p := { p with delta := p.delta + (m - n) * (p.covered + 1) }
    let p := label.foldl (Progress.pass basic m) p
    Progress.cover label basic (m + 1) rest { p with delta := p.delta + 1 }

/-- code points in increasing order, each once -/
def distinct (ns : List Nat) : List Nat := (ns.mergeSort (· ≤ ·)).eraseDups

def encode (label : List Char) : List Char :=
  let basic := label.filter fun c => c.toNat < 128
  let others := distinct ((label.filter fun c => 128 ≤ c.toNat).map Char.toNat)
  let p := Progress.cover label basic.length 128 others ⟨[], 0, 72, basic.length⟩
  (if basic.isEmpty then [] else basic ++ ['-']) ++ p.written

/-- reading digits: the label so far, the next code point, the insertion index, the bias, and the distance in the making
with its weight, its position and the index before it -/
structure Reading where
  label : List Nat
  codePoint : Nat
  index : Nat
  bias : Nat
  weight : Nat
  position : Nat
  start : Nat

def Reading.add (r : Reading) (c : Char) : Option Reading :=
  (value? c).bind fun d =>
    let index := r.index + d * r.weight
    let t := threshold r.position r.bias
    if d < t then
      let count := r.label.length + 1
      let codePoint := r.codePoint + index / count
      let place := index % count
      if codePoint < 0x110000 ∧ ¬(0xd800 ≤ codePoint ∧ codePoint ≤ 0xdfff) then
        some ⟨r.label.take place ++ codePoint :: r.label.drop place, codePoint, place + 1,
          adapt (index - r.start) count (r.start = 0), 1, 36, place + 1⟩
      else none
    else if UInt32.size ≤ index then none
    else some { r with index, weight := r.weight * (36 - t), position := r.position + 36 }

/-- the ASCII characters in front of the last hyphen, and the digits behind it; a hyphen that nothing stands before is none -/
def cut (s : List Char) : List Char × List Char :=
  let tail := (s.reverse.takeWhile (· ≠ '-')).reverse
  let basic := s.take (s.length - tail.length - 1)
  if basic.isEmpty then ([], s) else (basic, tail)

/-- the label that was written in ASCII, if it was one -/
def decode? (s : List Char) : Option (List Char) :=
  let (basic, tail) := cut s
  match tail.foldlM Reading.add ⟨basic.map Char.toNat, 128, 0, 72, 1, 36, 0⟩ with
  | some r => if r.position = 36 then some (r.label.map Char.ofNat) else none
  | none => none

end AdConfirm.Url.Punycode
