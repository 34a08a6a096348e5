import AdConfirm.Text.Composition
import AdConfirm.Text.Direction
import AdConfirm.Text.Joining
import AdConfirm.Text.Mark
import AdConfirm.Url.Name.Mapping
import AdConfirm.Url.Punycode

/-!
Names of hosts. A name is brought into the form in which names are compared, and its labels, the parts between its dots, are
written in ASCII. A label beyond ASCII must not begin with a mark and has joiners only where they change how it is written;
beside a label that runs from right to left every label has to keep its direction.
-/

namespace AdConfirm.Url

/-- characters that no name may hold -/
def isForbidden (c : Char) : Bool :=
  c ≤ ' ' || c = '\x7f' || ['%', '#', '/', ':', '<', '>', '?', '@', '[', '\\', ']', '^', '|'].contains c

def comparedForm (s : List Char) : List Char := Text.composed (s.flatMap nameText)

def isAscii (s : List Char) : Bool := s.all fun c => c.toNat < 128

/-- a label as it is written in ASCII, and what it says -/
structure Label where
  written : List Char
  text : List Char
  deriving DecidableEq

namespace Label

/-- a label beyond ASCII has at most so many characters -/
def greatestLength : Nat := 1000

/-- its form in ASCII has at most so many behind what it begins with -/
def greatestWrittenLength : Nat := 2000

/-- what a label beyond ASCII begins with in ASCII -/
def encodedStart : List Char := ['x', 'n', '-', '-']

def isJoiner (c : Char) : Bool := c = '\u200c' || c = '\u200d'

/-- whether a joiner may stand between two texts, of which the one before it is given from its end: behind a sign that takes
a letter its vowel, and a non-joiner also between letters that would be joined -/
def allowsJoiner (c : Char) (before behind : List Char) : Bool :=
  let letter (s : List Char) : Option Char := (s.dropWhile Text.transparentJoining.contains).head?
  before.head?.any (fun d => Text.combiningClass d = Text.viramaClass)
    || (c = '\u200c' && (letter before).any Text.joinsOn && (letter behind).any Text.joinsBack)

/-- whether all joiners of a text may stand where they do, behind the given text -/
def joinersFit (before : List Char) : List Char → Bool
  | [] => true
  | c :: rest => (!isJoiner c || allowsJoiner c before rest) && joinersFit (c :: before) rest

/-- whether a label beyond ASCII may say this -/
def isSound (s : List Char) : Bool :=
  s.length ≤ greatestLength && s.all isNamed && !s.head?.any Text.isMark && joinersFit [] s

/-- the label of a text in its compared form; one that begins like an encoded one has to be that -/
def ofText? (s : List Char) : Option Label :=
  match Text.afterStart? encodedStart s with
  | some rest =>
    if !isAscii s || greatestWrittenLength < rest.length then none
    else (Punycode.decode? rest).bind fun text =>
      if !isAscii text && comparedForm text = text && isSound text then some ⟨s, text⟩ else none
  | none =>
    if isAscii s then some ⟨s, s⟩
    else if isSound s then some ⟨encodedStart ++ Punycode.encode s, s⟩
    else none

/-- whether a label runs from right to left, or holds numbers of a script that does -/
def isRightToLeft (l : Label) : Bool := l.text.any Text.isRightToLeft

/-- whether a label is one of a single direction: it begins with a letter of it, holds no letter of the other, and ends with a
letter or number, marks apart; right to left, its numbers are of one kind -/
def keepsDirection (l : Label) : Bool :=
  let ds := (l.text.map Text.direction).reverse.dropWhile (· = .nonspacingMark)
  match l.text.head?.map Text.direction with
  | none => true
  | some .leftToRight =>
    ds.all (fun d => d = .leftToRight || !d.isOfRightToLeft) && ds.head?.any fun d => d = .leftToRight || d = .europeanNumber
  | some first =>
    first.isRightToLeftLetter && !ds.contains .leftToRight
      && ds.head?.any (fun d => d.isOfRightToLeft || d = .europeanNumber)
      && !(ds.contains .europeanNumber && ds.contains .arabicNumber)

end Label

def hostName? (s : List Char) : Option (List Char) := do
  let name := comparedForm s
  if name.any isForbidden then none
  let labels ← (Text.splitIf (· = '.') name).mapM Label.ofText?
  if labels.any Label.isRightToLeft && !labels.all Label.keepsDirection then none
  return Text.join ['.'] (labels.map (·.written))

end AdConfirm.Url
