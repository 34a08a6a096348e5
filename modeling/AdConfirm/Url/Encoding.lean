import AdConfirm.Text.Ascii
import AdConfirm.Text.Utf8

/-!
Percent-encoding in URLs: which characters of each part are written as the bytes of their UTF-8 form.
-/

namespace AdConfirm.Url

/-- controls and everything beyond ASCII -/
def isControl (c : Char) : Bool := c < ' ' || '~' < c

def inFragment (c : Char) : Bool := isControl c || [' ', '"', '<', '>', '\x60'].contains c

def inPath (c : Char) : Bool := inFragment c || ['#', '?', '\x7b', '\x7d'].contains c

def inUserInfo (c : Char) : Bool := inPath c || ['/', ':', ';', '=', '@', '[', '\\', ']', '^', '|'].contains c

/-- encoded in a query; under a special scheme the apostrophe too -/
def inQuery (special : Bool) (c : Char) : Bool :=
  isControl c || [' ', '"', '#', '<', '>'].contains c || (special && c = '\x27')

/-- a byte as a percent sign and two digits, letters in upper case -/
def percentByte (b : UInt8) : List Char :=
  let up (n : Nat) : Char := if n < 10 then Char.ofNat (48 + n) else Char.ofNat (55 + n)
  ['%', up (b.toNat / 16), up (b.toNat % 16)]

/-- a text with the characters of the class encoded -/
def percentEncode (encoded : Char → Bool) (s : List Char) : List Char :=
  s.flatMap fun c => if encoded c then (Text.utf8 c.toString).flatMap percentByte else [c]

/-- the bytes that a text with percent signs stands for -/
def percentDecode : List Char → List UInt8
  | '%' :: a :: b :: rest =>
    match Text.numeral? 16 [a, b] with
    | some n => UInt8.ofNat n :: percentDecode rest
    | none => 37 :: percentDecode (a :: b :: rest)
  | c :: rest => Text.utf8 c.toString ++ percentDecode rest
  | [] => []

end AdConfirm.Url
