import AdConfirm.Decimal.Shortest

/-!
How the digits of a double are laid out: positional notation with at least one decimal between two exponents, beyond them
a power of ten with its sign.
-/

namespace AdConfirm.Decimal

/-- the exponents between which a number is written out in full -/
structure Layout where
  least : Int
  greatest : Int

/-- a point after `n` digits, at least one digit on each side of it -/
def pointAfter (n : Int) (ds : List Char) : List Char :=
  if n ≤ 0 then '0' :: '.' :: (List.replicate (-n).toNat '0' ++ ds)
  else
    let k := n.toNat
    let whole := ds.take k ++ List.replicate (k - ds.length) '0'
    let fraction := ds.drop k
    whole ++ '.' :: (if fraction.isEmpty then ['0'] else fraction)

def withPower (s : Scientific) : List Char :=
  let mantissa := match s.digits with
    | [] => []
    | [d] => [d]
    | d :: rest => d :: '.' :: rest
  let power := if s.exponent < 0 then '-' :: Nat.toDigits 10 (-s.exponent).toNat
    else '+' :: Nat.toDigits 10 s.exponent.toNat
  mantissa ++ 'e' :: power

def Layout.render (l : Layout) (x : Binary64) : List Char :=
  let body :=
    if x.mantissa = 0 then ['0', '.', '0']
    else
      let s := x.shortest
      if l.least ≤ s.exponent ∧ s.exponent ≤ l.greatest then pointAfter (s.exponent + 1) s.digits else withPower s
  if x.negative then '-' :: body else body

/-- sixteen lower-case hexadecimal digits of the bits -/
def hexBits (x : Binary64) : String :=
  let ds := Nat.toDigits 16 x.bits
  String.ofList (List.replicate (16 - ds.length) '0' ++ ds)

end AdConfirm.Decimal
