/-!
Finite doubles (binary64) as exact numbers, and rounding of exact ratios to them.

A double is `mantissa · 2^exponent` with a sign in front. Arithmetic is exact arithmetic on ratios followed by one
rounding: to the nearest double, and to the even mantissa when two are equally near. A ratio too large for any finite
double has no rounding.
-/

namespace AdConfirm.Decimal

/-- a finite double: `mantissa · 2^exponent`, less than zero if `negative` -/
structure Binary64 where
  negative : Bool
  mantissa : Nat
  exponent : Int
  deriving DecidableEq, Inhabited

namespace Binary64

/-- least exponent: subnormal doubles have it -/
def leastExponent : Int := -1074

/-- greatest exponent of a finite double -/
def greatestExponent : Int := 971

/-- least mantissa of a double that is not subnormal: all mantissas have 53 binary digits at most -/
def leastNormal : Nat := Nat.pow 2 52

def zero (negative : Bool) : Binary64 := ⟨negative, 0, leastExponent⟩

/-- whole part of `num / den · 2^(-e)` and what is left, over the divisor used -/
def scaleDown (num den : Nat) (e : Int) : Nat × Nat × Nat :=
  if 0 ≤ e then
    let d := den * Nat.pow 2 e.toNat
    (num / d, num % d, d)
  else
    let n := num * Nat.pow 2 (-e).toNat
    (n / den, n % den, den)

/-- nearest whole number to `q + r / d`, a half going to the even neighbour -/
def roundEven (q r d : Nat) : Nat :=
  if 2 * r < d then q else if d < 2 * r then q + 1 else if q % 2 = 0 then q else q + 1

/-- the exponent `l` with `2^l ≤ num / den < 2^(l+1)`, for a positive ratio -/
def binaryExponent (num den : Nat) : Int :=
  let l : Int := (Nat.log2 num : Int) - (Nat.log2 den : Int)
  let reached := if 0 ≤ l then den * Nat.pow 2 l.toNat ≤ num else den ≤ num * Nat.pow 2 (-l).toNat
  if reached then l else l - 1

/-- the double nearest to a ratio; none when that is infinite -/
def ofRatio (negative : Bool) (num den : Nat) : Option Binary64 :=
  if num = 0 then some (zero negative)
  else
    let e := max (binaryExponent num den - 52) leastExponent
    let (q, r, d) := scaleDown num den e
    let m := roundEven q r d
    let (m, e) := if m = 2 * leastNormal then (leastNormal, e + 1) else (m, e)
    if greatestExponent < e then none else some ⟨negative, m, e⟩

def ratio (x : Binary64) : Nat × Nat :=
  if 0 ≤ x.exponent then (x.mantissa * Nat.pow 2 x.exponent.toNat, 1) else (x.mantissa, Nat.pow 2 (-x.exponent).toNat)

/-- magnitude times magnitude, rounded; the sign is that of the first -/
def mul (x y : Binary64) : Option Binary64 :=
  ofRatio x.negative (x.ratio.1 * y.ratio.1) (x.ratio.2 * y.ratio.2)

/-- magnitude over magnitude, rounded; the sign is that of the first -/
def div (x y : Binary64) : Option Binary64 :=
  ofRatio x.negative (x.ratio.1 * y.ratio.2) (x.ratio.2 * y.ratio.1)

/-- the double nearest to a power of ten that is below `10^309` -/
def powerOfTen (n : Nat) : Binary64 := (ofRatio false (Nat.pow 10 n) 1).getD (zero false)

def withSign (x : Binary64) (negative : Bool) : Binary64 := { x with negative }

def bits (x : Binary64) : Nat :=
  (if x.negative then 2048 * leastNormal else 0) +
    (if x.mantissa < leastNormal then x.mantissa
     else ((x.exponent + 1075).toNat) * leastNormal + (x.mantissa - leastNormal))

end Binary64

end AdConfirm.Decimal
