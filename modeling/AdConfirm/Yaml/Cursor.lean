import AdConfirm.Text.Utf8

/-!
A place in a document: the text from there on, and where it stands in bytes, and in lines and columns. What separates words (blanks and
line breaks) is read here as one gap, and `Gap.text` says what a gap inside a scalar folds to.
-/

namespace AdConfirm.Yaml

def isSpace (c : Char) : Bool := c = ' ' || c = '\t'

/-- line feed, carriage return, next line, line separator, paragraph separator -/
def isBreak (c : Char) : Bool := c = '\n' || c = '\r' || c = '\x85' || c = '\u2028' || c = '\u2029'

/-- what ends a word -/
def isGap (c : Char) : Bool := isSpace c || isBreak c

/-- what a line break means in a scalar: the separators of lines and paragraphs stay, all others are line feeds -/
def breakText (c : Char) : Char := if c = '\u2028' || c = '\u2029' then c else '\n'

/-- characters a document may hold -/
def isAllowed (c : Char) : Bool :=
  let n := c.toNat
  n = 9 || n = 10 || n = 13 || (0x20 ≤ n && n ≤ 0x7e) || n = 0x85 || (0xa0 ≤ n && n ≤ 0xfffd) || 0x10000 ≤ n

def isFlowIndicator (c : Char) : Bool := c = ',' || c = '[' || c = ']' || c = '{' || c = '}'

structure Cursor where
  rest : List Char
  index : Nat
  line : Nat
  column : Nat

/-- blanks on the line at hand, then each line break with the blanks that begin the next line -/
structure Gap where
  blanks : List Char
  lines : List (Char × List Char)

namespace Gap

def none : Gap := ⟨[], []⟩

/-- the gap that a run of blanks and breaks is; a return before a line feed counts as one break with it -/
def ofRun : List Char → Gap
  | [] => none
  | '\r' :: '\n' :: rest =>
    let g := ofRun rest
    ⟨[], ('\n', g.blanks) :: g.lines⟩
  | c :: rest =>
    let g := ofRun rest
    if isSpace c then ⟨c :: g.blanks, g.lines⟩ else ⟨[], (breakText c, g.blanks) :: g.lines⟩

def breaks (g : Gap) : List Char := g.lines.map (·.1)

/-- whether the gap goes on to another line -/
def isBroken (g : Gap) : Bool := !g.lines.isEmpty

/-- what the gap stands for inside a scalar: blanks are kept, one line feed is a space, of more the first is left out -/
def text (g : Gap) : List Char :=
  match g.breaks with
  | [] => g.blanks
  | ['\n'] => [' ']
  | '\n' :: more => more
  | breaks => breaks

/-- whether a tab stands where one of its lines is still to be indented -/
def hasEarlyTab (g : Gap) (indent : Nat) : Bool := g.lines.any fun l => (l.2.take indent).contains '\t'

end Gap

namespace Cursor

def start (s : List Char) : Cursor := ⟨s, 0, 0, 0⟩

def ahead? (c : Cursor) (n : Nat) : Option Char := c.rest[n]?

def here? (c : Cursor) : Option Char := c.rest.head?

def sees (c : Cursor) (ch : Char) : Bool := c.here? = some ch

def atEnd (c : Cursor) : Bool := c.rest.isEmpty

/-- moves over `n` characters of the line -/
def skip (c : Cursor) (n : Nat) : Cursor :=
  ⟨c.rest.drop n, c.index + Text.utf8Size (c.rest.take n), c.line, c.column + n⟩

/-- moves over a byte order mark at the beginning of a line, where it takes one column -/
def skipByteOrderMark (c : Cursor) : Cursor := if c.column = 0 && c.sees '\ufeff' then c.skip 1 else c

/-- moves over a line break -/
def skipBreak (c : Cursor) : Cursor :=
  match c.rest with
  | '\r' :: '\n' :: rest => ⟨rest, c.index + 2, c.line + 1, 0⟩
  | ch :: rest => ⟨rest, c.index + ch.utf8Size, c.line + 1, 0⟩
  | [] => c

/-- characters of the class from here on, and the cursor behind them -/
def takeWhile (c : Cursor) (p : Char → Bool) : List Char × Cursor :=
  let taken := c.rest.takeWhile p
  (taken, c.skip taken.length)

def skipWhile (c : Cursor) (p : Char → Bool) : Cursor := (c.takeWhile p).2

def endsWord (c : Cursor) (n : Nat) : Bool := (c.ahead? n).all isGap

def endsLine (c : Cursor) : Bool := c.here?.all isBreak

/-- the mark at the start of a line that begins a document, or ends one -/
def atMark (c : Cursor) (ch : Char) : Bool :=
  c.column = 0 && c.rest.take 3 = [ch, ch, ch] && c.endsWord 3

/-- whether a document begins or ends here -/
def atDocumentMark (c : Cursor) : Bool := c.atMark '-' || c.atMark '.'

/-- the gap at the cursor, and the cursor behind it -/
def takeGap (c : Cursor) : Gap × Cursor :=
  let run := c.rest.takeWhile isGap
  let g := Gap.ofRun run
  let column := match g.lines.getLast? with
    | none => c.column + run.length
    | some l => l.2.length
  (g, ⟨c.rest.drop run.length, c.index + Text.utf8Size run, c.line + g.lines.length, column⟩)

/-- the blanks to the end of the line, a comment, and the line break; none if anything else is there -/
def endLine? (c : Cursor) : Option Cursor :=
  let c := c.skipWhile isSpace
  let c := if c.sees '#' then c.skipWhile (!isBreak ·) else c
  if c.endsLine then some c.skipBreak else none

end Cursor

end AdConfirm.Yaml
