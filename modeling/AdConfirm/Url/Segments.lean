import AdConfirm.Text.Split
import AdConfirm.Url.Basic

/-!
Segments of a path as they are read one after the other: a dot stays, two dots go one up, and the name of a drive is never
left.

Tabs and line ends count for nothing in a URL, with one exception: a drive at the beginning of a local file's path that a tab
or line end sets off from what else the segment holds is a segment of its own.
-/

namespace AdConfirm.Url

/-- tabs and line ends -/
def isBreak (c : Char) : Bool := c = '\t' || c = '\n' || c = '\r'

def withoutBreaks (s : List Char) : List Char := s.filter (!isBreak ·)

/-- whether a segment stays where it is -/
def isSingleDot (s : List Char) : Bool := ["." , "%2e"].contains (String.ofList (Text.lower s))

/-- whether a segment goes one up -/
def isDoubleDot (s : List Char) : Bool :=
  ["..", ".%2e", "%2e.", "%2e%2e"].contains (String.ofList (Text.lower s))

/-- a letter and a colon or bar: the name of a drive -/
def isDrive : List Char → Bool
  | [c, d] => Text.isLetter c && (d = ':' || d = '|')
  | _ => false

/-- whether a segment is the name of a drive, or begins with one and a backslash -/
def keepsDrive : List Char → Bool
  | [c, d] => isDrive [c, d]
  | c :: d :: '\\' :: _ => isDrive [c, d]
  | _ => false

/-- the name of a drive that a tab or line end sets off from the rest of a segment, and the rest -/
def cutDrive? (s : List Char) : Option (List Char × List Char) :=
  match s.dropWhile isBreak with
  | c :: s =>
    match s.dropWhile isBreak with
    | ':' :: d :: s =>
      let rest := withoutBreaks s
      if Text.isLetter c && isBreak d && !rest.isEmpty then some ([c, ':'], rest) else none
    | _ => none
  | [] => none

/-- the segments so far, and whether the first one is a drive that was written as one -/
structure Trail where
  segments : List (List Char)
  hasDrive : Bool

namespace Trail

def empty : Trail := ⟨[], false⟩

def push (t : Trail) (s : List Char) : Trail := { t with segments := t.segments ++ [s] }

/-- without the last segment, unless it is a drive -/
def up (t : Trail) : Trail :=
  if t.segments.getLast?.any keepsDrive then t else { t with segments := t.segments.dropLast }

/-- adds one segment, which no slash follows if it is the last one; dots at the end leave an empty segment -/
def add (t : Trail) (s : List Char) (last : Bool) : Trail :=
  if isDoubleDot s then if last then t.up.push [] else t.up
  else if isSingleDot s then if last then t.push [] else t
  else t.push s

/-- adds one segment of a local file's path; a drive that comes first is written with a colon -/
def addOfFile (t : Trail) (s : List Char) (last : Bool) : Trail :=
  let plain := percentEncode inPath (withoutBreaks s)
  if !t.segments.isEmpty then t.add plain last
  else if isDrive plain then ⟨[plain.take 1 ++ [':']], true⟩
  else match cutDrive? s with
    | some (drive, rest) => (t.push drive).push (percentEncode inPath rest)
    | none => t.add plain last

def addAll (add : Trail → List Char → Bool → Trail) (t : Trail) : List (List Char) → Trail
  | [] => t
  | [s] => add t s true
  | s :: rest => addAll add (add t s false) rest

end Trail

/-- the path after its first slash -/
def readSegments (special : Bool) (s : List Char) : List (List Char) :=
  let raw := Text.splitIf (fun c => c = '/' || (special && c = '\\')) s
  (Trail.addAll Trail.add .empty (raw.map (percentEncode inPath))).segments

/-- the path of a local file after its first slash -/
def readFileSegments (s : List Char) : Trail :=
  Trail.addAll Trail.addOfFile .empty (Text.splitIf (fun c => c = '/' || c = '\\') s)

/-- leading empty segments of a local file's path count for nothing; one is left if there is no other -/
def trimLeading (ss : List (List Char)) : List (List Char) :=
  match ss.dropWhile List.isEmpty with
  | [] => ss.take 1
  | rest => rest

end AdConfirm.Url
