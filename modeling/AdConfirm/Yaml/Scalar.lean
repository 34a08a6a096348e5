import AdConfirm.Decimal.Numeral
import AdConfirm.Json.Value

/-!
What scalars stand for. A plain one is null, a truth value, a number or else a text; whole numbers may be written in base
two, eight and sixteen, and decimal digits behind a leading zero are a text. A tag can ask for one of these kinds.
-/

namespace AdConfirm.Yaml

open AdConfirm.Decimal AdConfirm.Text

inductive Scalar where
  | null
  | bool (b : Bool)
  | number (n : Json.Number)
  | infinite
  | undefined
  | text (s : String)
  deriving DecidableEq

namespace Scalar

def isNull (s : String) : Bool := s = "null" || s = "Null" || s = "NULL" || s = "~"

/-- the spellings of truth values -/
def bool? (s : String) : Option Bool :=
  if s = "true" || s = "True" || s = "TRUE" then some true
  else if s = "false" || s = "False" || s = "FALSE" then some false
  else none

def isSigned (s : List Char) : Bool := s.head?.any fun c => c = '+' || c = '-'

def hasLeadingZero (s : List Char) : Bool :=
  let s := if isSigned s then s.tail else s
  1 < s.length && s.head? = some '0' && s.tail.all isDigit

/-- the digits behind the sign of a base other than ten -/
def based? (s : List Char) : Option Nat :=
  match s with
  | '0' :: 'x' :: ds => numeral? 16 ds
  | '0' :: 'o' :: ds => numeral? 8 ds
  | '0' :: 'b' :: ds => numeral? 2 ds
  | _ => none

/-- a whole number without regard to its size -/
def integer? (s : List Char) : Option Int :=
  let unsigned := match s with
    | '+' :: rest => rest
    | s => s
  match based? unsigned with
  | some n => some n
  | none =>
    match s with
    | '-' :: rest =>
      match based? rest with
      | some n => some (-n)
      | none => if hasLeadingZero s then none else (numeral? 10 rest).map fun n => -(n : Int)
    | _ => if hasLeadingZero s then none else (numeral? 10 unsigned).map fun n => (n : Int)

/-- how many whole numbers there are of 128 bits -/
def doubledSize : Nat := UInt64.size * UInt64.size

/-- reads a whole number of up to 128 bits; the outer option is none if it is none, the inner if it has more than 64 bits -/
def whole? (s : List Char) : Option (Option Json.Number) :=
  (integer? s).bind fun n =>
    if 0 ≤ n then
      if n < UInt64.size then some (some (.natural (.ofNat n.toNat)))
      else if n < doubledSize then some none
      else none
    else if Int64.minValue.toInt ≤ n then some (some (.negative (.ofInt n)))
    else if -(doubledSize : Int) ≤ 2 * n then some none
    else none

/-- reads a number with a point or a power of ten, or a name of infinity or of no number; infinite numerals are none -/
def float? (s : List Char) : Option Scalar :=
  let unsigned := match s with
    | '+' :: rest => rest
    | s => s
  if s.head? = some '+' && isSigned unsigned then none
  else if [".inf", ".Inf", ".INF"].contains (String.ofList unsigned) then some .infinite
  else if ["-.inf", "-.Inf", "-.INF"].contains (String.ofList s) then some .infinite
  else if [".nan", ".NaN", ".NAN"].contains (String.ofList s) then some .undefined
  else (readFinite? (String.ofList unsigned)).map fun x => .number (.float x)

/-- a plain scalar; none if it is a whole number of too many bits -/
def ofPlain? (s : String) : Option Scalar :=
  let cs := s.toList
  if cs.isEmpty || isNull s then some .null
  else
    match bool? s with
    | some b => some (.bool b)
    | none =>
      match whole? cs with
      | some n => n.map .number
      | none => if hasLeadingZero cs then some (.text s) else some ((float? cs).getD (.text s))

/-- the tags that ask for a kind all begin so -/
def kindTags : List Char := "tag:yaml.org,2002:".toList

/-- a scalar with a tag that is not of its own making -/
def ofTagged? (tag s : String) : Option Scalar :=
  match (afterKindTags? tag).map String.ofList with
  | some "bool" => (bool? s).map .bool
  | some "int" => (whole? s.toList).bind fun n => n.map .number
  | some "float" => float? s.toList
  | some "null" => if isNull s then some .null else none
  | _ => some (.text s)
where
  /-- the kind that a tag asks for -/
  afterKindTags? (tag : String) : Option (List Char) :=
    if kindTags.isPrefixOf tag.toList then some (tag.toList.drop kindTags.length) else none

/-- the value of a scalar; what is no finite number is null -/
def toValue : Scalar → Json.Value
  | .null => .null
  | .bool b => .bool b
  | .number n => .number n
  | .infinite => .null
  | .undefined => .null
  | .text s => .text s

/-- two keys are one if they are equal; zero and its negative are equal as doubles -/
def isSameKey : Scalar → Scalar → Bool
  | .number (.float x), .number (.float y) => x = y || (x.mantissa = 0 && y.mantissa = 0)
  | a, b => a = b

/-- the text of a scalar that is a key; null and what is no finite number is none -/
def keyText? : Scalar → Option String
  | .bool b => some (if b then "true" else "false")
  | .number n => some (.ofList n.print)
  | .text s => some s
  | _ => none

end Scalar

end AdConfirm.Yaml
