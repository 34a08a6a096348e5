import AdConfirm.Decimal.Binary64
import AdConfirm.Text.Ascii

/-!
Decimal numerals: an optional sign, digits with at most one point and at least one digit, an optional power of ten.
A numeral stands for the double nearest to it; one beyond every finite double stands for none.
-/

namespace AdConfirm.Decimal

open AdConfirm.Text

/-- a numeral taken apart: its digits without the point, and the power of ten of the last one -/
structure Numeral where
  negative : Bool
  digits : List Char
  exponent : Int
  deriving DecidableEq

/-- takes off an optional sign -/
def takeSign : List Char → Bool × List Char
  | '-' :: rest => (true, rest)
  | '+' :: rest => (false, rest)
  | rest => (false, rest)

/-- the power of ten behind the digits, zero if none is written -/
def readPower : List Char → Option Int
  | [] => some 0
  | c :: rest =>
    if c = 'e' ∨ c = 'E' then
      let (negative, ds) := takeSign rest
      if ds.isEmpty || !ds.all isDigit then none
      else some (if negative then -(digitsValue ds : Int) else digitsValue ds)
    else none

/-- reads a numeral, the whole text or nothing -/
def Numeral.read? (s : List Char) : Option Numeral :=
  let (negative, s) := takeSign s
  let whole := s.takeWhile isDigit
  let s := s.dropWhile isDigit
  let (fraction, s) := match s with
    | '.' :: rest => (rest.takeWhile isDigit, rest.dropWhile isDigit)
    | s => ([], s)
  if whole.isEmpty && fraction.isEmpty then none
  else (readPower s).map fun p => ⟨negative, whole ++ fraction, p - (fraction.length : Int)⟩

/-- the nearest double; far from one the digits need not be weighed -/
def Numeral.toBinary64? (n : Numeral) : Option Binary64 :=
  let ds := n.digits.dropWhile (· = '0')
  let magnitude := (ds.length : Int) + n.exponent
  if ds.isEmpty || magnitude < -400 then some (.zero n.negative)
  else if 400 < magnitude then none
  else Binary64.ofRatio n.negative (digitsValue ds * Nat.pow 10 n.exponent.toNat) (Nat.pow 10 (-n.exponent).toNat)

/-- the finite double a text reads as, if it is a numeral of one -/
def readFinite? (s : String) : Option Binary64 := (Numeral.read? s.toList).bind Numeral.toBinary64?

end AdConfirm.Decimal
