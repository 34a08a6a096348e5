import AdConfirm.Text.Split
import AdConfirm.Url.Encoding
import AdConfirm.Url.Name

/-!
Hosts of URLs: names, IPv4 addresses in all their notations, and IPv6 addresses in brackets.
-/

namespace AdConfirm.Url

/-- why a text is no URL -/
inductive UrlError where
  | emptyHost
  | invalidDomain
  | invalidPort
  | invalidIpv4
  | invalidIpv6
  | invalidHostCharacter
  | relativeWithoutBase
  deriving DecidableEq

def UrlError.message : UrlError → String
  | .emptyHost => "empty host"
  | .invalidDomain => "invalid international domain name"
  | .invalidPort => "invalid port number"
  | .invalidIpv4 => "invalid IPv4 address"
  | .invalidIpv6 => "invalid IPv6 address"
  | .invalidHostCharacter => "invalid domain character"
  | .relativeWithoutBase => "relative URL without a base"

inductive Host where
  | domain (s : List Char)
  | ipv4 (n : Nat)
  | ipv6 (pieces : List Nat)
  deriving DecidableEq

/-! ## IPv4 -/

/-- a number of an IPv4 address: decimal, octal after a zero, hexadecimal after 0x; nothing after 0x is zero -/
def ipv4Number? (s : List Char) : Option Nat :=
  match s with
  | [] => none
  | ['0', 'x'] => some 0
  | ['0', 'X'] => some 0
  | '0' :: 'x' :: rest => Text.numeral? 16 rest
  | '0' :: 'X' :: rest => Text.numeral? 16 rest
  | '0' :: d :: rest => Text.numeral? 8 (d :: rest)
  | s => Text.numeral? 10 s

/-- parts between dots, a closing dot left out -/
def dottedParts (s : List Char) : List (List Char) :=
  let parts := Text.splitIf (· = '.') s
  if parts.length > 1 ∧ parts.getLast? = some [] then parts.dropLast else parts

/-- whether a host is to be read as an IPv4 address: its last part is a number -/
def endsInNumber (s : List Char) : Bool :=
  match (dottedParts s).getLast? with
  | some last => (!last.isEmpty && last.all Text.isDigit) || (ipv4Number? last).isSome
  | none => false

/-- an IPv4 address: at most four numbers, all but the last one byte each, the last one filling what is left -/
def ipv4? (s : List Char) : Option Nat := do
  let numbers ← (dottedParts s).mapM ipv4Number?
  let last ← numbers.getLast?
  let front := numbers.dropLast
  if 4 < numbers.length ∨ front.any (255 < ·) ∨ Nat.pow 256 (4 - front.length) ≤ last then none
  else some (front.zipIdx.foldl (fun sum e => sum + e.1 * Nat.pow 256 (3 - e.2)) last)

/-- an IPv4 address as four decimal numbers -/
def printIpv4 (n : Nat) : List Char :=
  Text.join ['.'] ([n / 256 / 256 / 256 % 256, n / 256 / 256 % 256, n / 256 % 256, n % 256].map (Nat.toDigits 10))

/-! ## IPv6 -/

/-- one of the four numbers that may close an IPv6 address: decimal, at most 255, no zero in front -/
def closingByte? (s : List Char) : Option Nat :=
  if s.length ≤ 3 ∧ s.all Text.isDigit ∧ (s.length ≤ 1 ∨ s.head? ≠ some '0') then
    (Text.numeral? 10 s).bind fun n => if n ≤ 255 then some n else none
  else none

/-- the two pieces that an IPv4 address at the end stands for -/
def closingPieces? (s : List Char) : Option (List Nat) :=
  match (Text.splitIf (· = '.') s).mapM closingByte? with
  | some [a, b, c, d] => some [a * 256 + b, c * 256 + d]
  | _ => none

/-- pieces between colons; the last one may be an IPv4 address -/
def ipv6Pieces? : List (List Char) → Option (List Nat)
  | [] => some []
  | [s] => if s.length ≤ 4 then match Text.numeral? 16 s with
      | some n => some [n]
      | none => closingPieces? s
    else closingPieces? s
  | s :: rest => do
    let n ← if s.length ≤ 4 then Text.numeral? 16 s else none
    let ns ← ipv6Pieces? rest
    return n :: ns

/-- pieces of one side of a doubled colon; an empty side has none -/
def ipv6Side? (s : List Char) : Option (List Nat) :=
  if s.isEmpty then some [] else ipv6Pieces? (Text.splitIf (· = ':') s)

/-- an IPv6 address: eight pieces, or fewer around one doubled colon that stands for zeros -/
def ipv6? (s : List Char) : Option (List Nat) :=
  match Text.splitDoubled ':' s with
  | [whole] => (ipv6Side? whole).bind fun ps => if ps.length = 8 then some ps else none
  | [front, back] => do
    if front.contains '.' then none
    let a ← ipv6Side? front
    let b ← ipv6Side? back
    if 7 < a.length + b.length then none else some (a ++ List.replicate (8 - a.length - b.length) 0 ++ b)
  | _ => none

def zeroRun (ps : List Nat) : Nat := (ps.takeWhile (· = 0)).length

/-- start and length of the longest run of zeros, the first of equal ones -/
def longestZeroRun (ps : List Nat) : Nat × Nat :=
  (List.range ps.length).foldl (fun best i =>
    let n := zeroRun (ps.drop i)
    if best.2 < n then (i, n) else best) (0, 0)

/-- an IPv6 address, its longest run of two zeros or more as a doubled colon -/
def printIpv6 (ps : List Nat) : List Char :=
  let colons (ns : List Nat) : List Char := Text.join [':'] (ns.map (Nat.toDigits 16))
  let (start, length) := longestZeroRun ps
  if length < 2 then colons ps
  else colons (ps.take start) ++ [':', ':'] ++ colons (ps.drop (start + length))

/-! ## Hosts -/

def bracketed? (s : List Char) : Except UrlError Host :=
  match s.getLast? with
  | some ']' => match ipv6? (s.drop 1).dropLast with
    | some ps => .ok (.ipv6 ps)
    | none => .error .invalidIpv6
  | _ => .error .invalidIpv6

def Host.ofSpecial (s : List Char) : Except UrlError Host :=
  if s.head? = some '[' then bracketed? s
  else match (Text.ofUtf8? (percentDecode s)).bind fun d => hostName? d.toList with
    | none => .error .invalidDomain
    | some name =>
      if name.isEmpty then .error .emptyHost
      else if endsInNumber name then
        match ipv4? name with
        | some n => .ok (.ipv4 n)
        | none => .error .invalidIpv4
      else .ok (.domain name)

/-- characters that no host may hold under any scheme -/
def isForbiddenInHost (c : Char) : Bool :=
  [Char.ofNat 0, '\t', '\n', '\r', ' ', '#', '/', ':', '<', '>', '?', '@', '[', '\\', ']', '^', '|'].contains c

/-- host under any other scheme -/
def Host.ofOpaque (s : List Char) : Except UrlError Host :=
  if s.head? = some '[' then bracketed? s
  else if s.any isForbiddenInHost then .error .invalidHostCharacter
  else .ok (.domain (percentEncode isControl s))

def Host.print : Host → List Char
  | .domain s => s
  | .ipv4 n => printIpv4 n
  | .ipv6 ps => '[' :: printIpv6 ps ++ [']']

end AdConfirm.Url
