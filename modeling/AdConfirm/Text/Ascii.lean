/-!
ASCII classes and case. Every test here looks at ASCII alone: hosts and policy paths are lowered, and digits are read,
without regard to any other script.
-/

namespace AdConfirm.Text

/-- a letter A to Z becomes a to z, anything else stays -/
def lowerChar (c : Char) : Char := if 'A' ≤ c ∧ c ≤ 'Z' then Char.ofNat (c.toNat + 32) else c

def lower (s : List Char) : List Char := s.map lowerChar

def lowered (s : String) : String := String.ofList (lower s.toList)

def sameIgnoringCase (s t : String) : Bool := lower s.toList == lower t.toList

def isDigit (c : Char) : Bool := '0' ≤ c && c ≤ '9'

def isLetter (c : Char) : Bool := ('a' ≤ c && c ≤ 'z') || ('A' ≤ c && c ≤ 'Z')

/-- value of a digit in bases up to sixteen -/
def hexValue? (c : Char) : Option Nat :=
  if isDigit c then some (c.toNat - 48)
  else if 'a' ≤ c ∧ c ≤ 'f' then some (c.toNat - 87)
  else if 'A' ≤ c ∧ c ≤ 'F' then some (c.toNat - 55)
  else none

def digitValue (c : Char) : Nat := c.toNat - 48

/-- the digit of a value below sixteen, letters in lower case -/
def hexDigit (n : Nat) : Char := if n < 10 then Char.ofNat (48 + n) else Char.ofNat (87 + n)

/-- value of a run of decimal digits, first digit most significant -/
def digitsValue (ds : List Char) : Nat := ds.foldl (fun n d => n * 10 + digitValue d) 0

/-- digits of `n` in the base, at least `width` of them -/
def digitsIn (base : Nat) (width : Nat) (n : Nat) : List Char :=
  let ds := Nat.toDigits base n
  List.replicate (width - ds.length) '0' ++ ds

/-- whole number written in a base: one digit at least, digits below the base alone -/
def numeral? (base : Nat) (ds : List Char) : Option Nat :=
  if ds.isEmpty then none
  else ds.foldlM (fun n d => (hexValue? d).bind fun v => if v < base then some (n * base + v) else none) 0

end AdConfirm.Text
