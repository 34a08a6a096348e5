import AdConfirm.Text.Ascii
import AdConfirm.Yaml.Cursor

/-!
Scalars in quotes. Between single quotes only a doubled quote is special; between double quotes a backslash begins an
escape, and one at the end of a line joins the lines without a space. Gaps fold as they do in plain scalars.
-/

namespace AdConfirm.Yaml.Quoted

/-- what a backslash and one character stand for -/
def escaped? : Char → Option Char
  | '0' => some '\x00'
  | 'a' => some '\x07'
  | 'b' => some '\x08'
  | 't' => some '\t'
  | '\t' => some '\t'
  | 'n' => some '\n'
  | 'v' => some '\x0b'
  | 'f' => some '\x0c'
  | 'r' => some '\r'
  | 'e' => some '\x1b'
  | ' ' => some ' '
  | '"' => some '"'
  | '/' => some '/'
  | '\\' => some '\\'
  | 'N' => some '\x85'
  | '_' => some '\xa0'
  | 'L' => some '\u2028'
  | 'P' => some '\u2029'
  | _ => none

/-- how many hexadecimal digits follow the letter of an escape -/
def codeLength? : Char → Option Nat
  | 'x' => some 2
  | 'u' => some 4
  | 'U' => some 8
  | _ => none

/-- the character of a code in hexadecimal digits -/
def codeChar? (length : Nat) (s : List Char) : Option Char :=
  if s.length < length then none
  else (Text.numeral? 16 (s.take length)).bind fun n => if n.isValidChar then some (Char.ofNat n) else none

/-- the character that an escape stands for, with the length of the escape; the letter follows a backslash -/
def escape? (letter : Char) (behind : List Char) : Option (Char × Nat) :=
  match codeLength? letter with
  | some n => (codeChar? n behind).map fun ch => (ch, n + 2)
  | none => (escaped? letter).map fun ch => (ch, 2)

/-- one piece of a scalar: the text it stands for, and the cursor behind it; none at the closing quote -/
inductive Piece where
  | text (chars : List Char) (behind : Cursor)
  | close (behind : Cursor)

/-- the piece at the cursor; none where the scalar is broken off -/
def piece? (isSingle : Bool) (c : Cursor) : Option Piece :=
  if c.atDocumentMark then none
  else
    let quote := if isSingle then '\'' else '"'
    match c.rest with
    | [] => none
    | ch :: rest =>
      if isGap ch then
        let (gap, behind) := c.takeGap
        some (.text gap.text behind)
      else if isSingle && ch = '\'' && rest.head? = some '\'' then some (.text ['\''] (c.skip 2))
      else if ch = quote then some (.close (c.skip 1))
      else if !isSingle && ch = '\\' then
        match rest with
        | [] => none
        | letter :: behind =>
          if isBreak letter then
            let (gap, next) := (c.skip 1).skipBreak.takeGap
            some (.text gap.breaks next)
          else (escape? letter behind).map fun e => .text [e.1] (c.skip e.2)
      else some (.text [ch] (c.skip 1))

/-- reads a scalar whose opening quote stands before the cursor; returns its text with the cursor behind the closing quote -/
def read? (isSingle : Bool) (c : Cursor) : Option (List Char × Cursor) :=
  match piece? isSingle c with
  | none => none
  | some (.close behind) => some ([], behind)
  | some (.text chars behind) =>
    if _h : behind.rest.length < c.rest.length then
      (read? isSingle behind).map fun r => (chars ++ r.1, r.2)
    else none
  termination_by c.rest.length

end AdConfirm.Yaml.Quoted
