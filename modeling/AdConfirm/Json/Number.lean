import AdConfirm.Decimal.Layout
import AdConfirm.Text.Ascii

/-!
Numbers of JSON values: whole numbers of 64 bits, with or without a sign, and doubles for everything else.

A number with a point or a power of ten is a double, and so is a whole number that fits neither kind of 64 bits, and the
zero with a minus sign. Such a double is weighed as follows: digits are taken while they fit 64 bits, digits of the
whole part beyond that only count as powers of ten, and the result is scaled by one rounded power of ten (by several, where
the power is below `10^(-308)`).
-/

namespace AdConfirm.Json

open AdConfirm.Decimal AdConfirm.Text

inductive Number where
  | natural (n : UInt64)
  | negative (n : Int64)
  | float (x : Binary64)
  deriving DecidableEq

namespace Number

/-- doubles are written in full for decimal exponents from -5 to 15, and end in a decimal at least -/
def layout : Layout := ⟨-5, 15⟩

/-- takes digits while the number made of them fits 64 bits; returns it with the digits that are left -/
def weigh (n : Nat) : List Char → Nat × List Char
  | [] => (n, [])
  | d :: rest =>
    let m := n * 10 + digitValue d
    if m < UInt64.size then weigh m rest else (n, d :: rest)

/-- the greatest power of ten that a double can hold -/
def greatestPower : Nat := 308

/-- divides by the greatest power of ten, so often, or until nothing is left -/
def shrink : Nat → Binary64 → Option Binary64
  | 0, x => some x
  | n + 1, x => if x.mantissa = 0 then some x else (x.div (.powerOfTen greatestPower)).bind (shrink n)

/-- scales by a power of ten in steps that a double can hold; none when the result is infinite -/
def scale (x : Binary64) (power : Int) : Option Binary64 :=
  if 0 ≤ power then
    if power ≤ greatestPower then x.mul (.powerOfTen power.toNat)
    else if x.mantissa = 0 then some x else none
  else
    let n := (-power).toNat
    let steps := (n - 1) / greatestPower
    (shrink steps x).bind fun y => if y.mantissa = 0 then some y else y.div (.powerOfTen (n - steps * greatestPower))

/-- a number taken apart -/
structure Parts where
  negative : Bool
  whole : List Char
  fraction : List Char
  power : Int
  isFloat : Bool

/-- takes apart the text of a number token -/
def Parts.ofText (s : List Char) : Parts :=
  let (negative, s) := match s with
    | '-' :: rest => (true, rest)
    | s => (false, s)
  let whole := s.takeWhile isDigit
  let s := s.dropWhile isDigit
  let isFloat := !s.isEmpty
  let (fraction, s) := match s with
    | '.' :: rest => (rest.takeWhile isDigit, rest.dropWhile isDigit)
    | s => ([], s)
  let power : Int := match s with
    | _ :: '-' :: ds => -(digitsValue ds : Int)
    | _ :: '+' :: ds => digitsValue ds
    | _ :: ds => digitsValue ds
    | [] => 0
  ⟨negative, whole, fraction, power, isFloat⟩

/-- the double of a number taken apart -/
def Parts.toFloat? (p : Parts) : Option Binary64 :=
  let (n, beyond) := weigh 0 p.whole
  let (n, unused) := weigh n p.fraction
  let used := p.fraction.length - unused.length
  let power := (beyond.length : Int) - (used : Int) + p.power
  (Binary64.ofRatio false n 1).bind fun x => (scale x power).map (·.withSign p.negative)

/-- the number that a token's text stands for; none when it is infinite -/
def ofText? (s : List Char) : Option Number :=
  let p := Parts.ofText s
  let n := digitsValue p.whole
  if p.isFloat then p.toFloat?.map .float
  else if p.negative then
    if 0 < n ∧ 2 * n ≤ UInt64.size then some (.negative (Int64.ofInt (-(n : Int)))) else p.toFloat?.map .float
  else if n < UInt64.size then some (.natural (UInt64.ofNat n)) else p.toFloat?.map .float

def print : Number → List Char
  | .natural n => Nat.toDigits 10 n.toNat
  | .negative n => '-' :: Nat.toDigits 10 n.toInt.natAbs
  | .float x => layout.render x

def toBinary64? : Number → Option Binary64
  | .natural n => Binary64.ofRatio false n.toNat 1
  | .negative n => Binary64.ofRatio true n.toInt.natAbs 1
  | .float x => some x

/-- the number as an integer, if it is written as one -/
def toInt? : Number → Option Int
  | .natural n => some n.toNat
  | .negative n => some n.toInt
  | .float _ => none

end Number

end AdConfirm.Json
