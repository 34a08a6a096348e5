import AdConfirm.Text.Ascii
import AdConfirm.Text.Utf8
import AdConfirm.Yaml.Cursor

/-!
Names in a document: of anchors, and the handles and suffixes of tags. A tag is a handle with a suffix, or a whole tag in
angle brackets; a character may be written as the hexadecimal codes of its bytes.
-/

namespace AdConfirm.Yaml

open AdConfirm.Text

def isNameChar (c : Char) : Bool := isLetter c || isDigit c || c = '_' || c = '-'

/-- characters of a tag besides those of names -/
def isTagMark (withBrackets : Bool) (c : Char) : Bool :=
  ";/?:@&=+$.!~*'()".toList.contains c || (withBrackets && (c = ',' || c = '[' || c = ']'))

/-- a byte written as a percent sign and two hexadecimal digits -/
def percentByte? : List Char → Option UInt8
  | '%' :: a :: b :: _ => do
    let x ← hexValue? a
    let y ← hexValue? b
    return UInt8.ofNat (x * 16 + y)
  | _ => none

/-- how many bytes a character has, by its first one -/
def octetCount? (b : UInt8) : Option Nat :=
  if b &&& 0x80 = 0 then some 1
  else if b &&& 0xe0 = 0xc0 then some 2
  else if b &&& 0xf0 = 0xe0 then some 3
  else if b &&& 0xf8 = 0xf0 then some 4
  else none

/-- a character written as its bytes, with the length of what is written -/
def percentChar? (s : List Char) : Option (List Char × Nat) := do
  let n ← octetCount? (← percentByte? s)
  let bytes ← (List.range n).mapM fun i => percentByte? (s.drop (3 * i))
  return ((← ofUtf8? bytes).toList, 3 * n)

def tagChars? (withBrackets : Bool) (c : Cursor) : Option (List Char × Cursor) :=
  match c.rest with
  | [] => some ([], c)
  | ch :: _ =>
    let piece := if ch = '%' then percentChar? c.rest
      else if isNameChar ch || isTagMark withBrackets ch then some ([ch], 1)
      else some ([], 0)
    match piece with
    | none => none
    | some (_, 0) => some ([], c)
    | some (chars, n + 1) =>
      if _h : (c.skip (n + 1)).rest.length < c.rest.length then
        (tagChars? withBrackets (c.skip (n + 1))).map fun r => (chars ++ r.1, r.2)
      else none
  termination_by c.rest.length

/-- reads characters of a tag, one at least -/
def tagText? (withBrackets : Bool) (c : Cursor) : Option (List Char × Cursor) :=
  (tagChars? withBrackets c).bind fun r => if r.1.isEmpty then none else some r

/-- reads a handle: `!`, a name, and another `!` unless it ends before -/
def handle? (c : Cursor) : Option (List Char × Cursor) :=
  if c.sees '!' then
    let (name, behind) := (c.skip 1).takeWhile isNameChar
    if behind.sees '!' then some ('!' :: name ++ ['!'], behind.skip 1) else some ('!' :: name, behind)
  else none

def isClosedHandle (h : List Char) : Bool := 1 < h.length && h.getLast? = some '!'

/-- reads a tag as handle and suffix; the handle is empty where the suffix is the whole tag -/
def tag? (c : Cursor) : Option ((List Char × List Char) × Cursor) :=
  if c.ahead? 1 = some '<' then do
    let (whole, behind) ← tagText? true (c.skip 2)
    if behind.sees '>' then some (([], whole), behind.skip 1) else none
  else do
    let (h, behind) ← handle? c
    if isClosedHandle h then
      let (suffix, behind) ← tagText? false behind
      return ((h, suffix), behind)
    else
      let (more, behind) ← tagChars? false behind
      match h.drop 1 ++ more with
      | [] => return (([], ['!']), behind)
      | suffix => return ((['!'], suffix), behind)

end AdConfirm.Yaml
