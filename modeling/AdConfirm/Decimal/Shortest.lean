import AdConfirm.Decimal.Binary64

/-!
The fewest decimal digits that read back as a given double, and of those the nearest to it.

The reals that round to a double form an interval around it, with its ends when the mantissa is even. For one digit, then
two, up to seventeen, the double lies between two neighbours on the grid of that many digits; the first grid with a
neighbour inside the interval decides, of two the nearer one, and of two equally near the one with an even last digit.
-/

namespace AdConfirm.Decimal

/-- a positive decimal `d.ddd · 10^exponent`, its first digit not zero -/
structure Scientific where
  digits : List Char
  exponent : Int
  deriving DecidableEq

namespace Binary64

/-- the exponent `l` with `10^l ≤ num / den < 10^(l+1)`, for a positive ratio -/
def decimalExponent (num den : Nat) : Int :=
  if den ≤ num then ((Nat.toDigits 10 (num / den)).length : Int) - 1
  else -((Nat.toDigits 10 ((den - 1) / num)).length : Int)

/-- the interval of reals that round to a double: value and ends over one denominator -/
structure Interval where
  value : Nat
  low : Nat
  high : Nat
  den : Nat
  closed : Bool

/-- half the distance to each neighbour lies inside; below a power of two the neighbour is half as far -/
def interval (x : Binary64) : Interval :=
  let low := if x.mantissa = leastNormal ∧ leastExponent < x.exponent then 4 * x.mantissa - 1 else 4 * x.mantissa - 2
  let e := x.exponent - 2
  let up := Nat.pow 2 e.toNat
  ⟨4 * x.mantissa * up, low * up, (4 * x.mantissa + 2) * up, Nat.pow 2 (-e).toNat, x.mantissa % 2 = 0⟩

/-- whether a real over the interval's denominator rounds to the double -/
def Interval.holds (i : Interval) (low high p : Nat) : Bool :=
  if i.closed then low ≤ p && p ≤ high else low < p && p < high

/-- the neighbour on the grid of multiples of `10^unit` that reads back, if one does -/
def Interval.onGrid (i : Interval) (unit : Int) : Option Nat :=
  let up := Nat.pow 10 (-unit).toNat
  let d := i.den * Nat.pow 10 unit.toNat
  let v := i.value * up
  let q := v / d
  let below := i.holds (i.low * up) (i.high * up) (q * d)
  let above := i.holds (i.low * up) (i.high * up) ((q + 1) * d)
  if below && above then some (roundEven q (v % d) d)
  else if below then some q
  else if above then some (q + 1)
  else none

/-- the digits of a decimal on a grid, without closing zeros -/
def onGridScientific (q : Nat) (unit : Int) : Scientific :=
  let ds := Nat.toDigits 10 q
  ⟨(ds.reverse.dropWhile (· = '0')).reverse, unit + (ds.length : Int) - 1⟩

/-- shortest decimal of a double that is not zero -/
def shortest (x : Binary64) : Scientific :=
  let i := x.interval
  let e := decimalExponent i.value i.den
  let hit := (List.range 17).findSome? fun (n : Nat) =>
    (i.onGrid (e - (n : Int))).map fun q => onGridScientific q (e - (n : Int))
  hit.getD ⟨['0'], 0⟩

end Binary64

end AdConfirm.Decimal
