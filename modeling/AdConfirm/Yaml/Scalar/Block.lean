import AdConfirm.Text.Ascii
import AdConfirm.Yaml.Cursor

/-!
Block scalars: the indented lines behind `|` or `>`. The first kind keeps its line breaks; in the second kind a single break
between two lines that begin with no blank is a space. A sign in the header says what becomes of the breaks at the end.
-/

namespace AdConfirm.Yaml.Block

/-- what becomes of the line breaks at the end: all go, one stays, all stay -/
inductive Chomping where
  | strip
  | clip
  | keep

/-- the header: the breaks at the end, and the depth of indentation if it is given -/
structure Header where
  chomping : Chomping
  depth : Option Nat

/-- the sign of a header -/
def chomping? : Option Char → Option Chomping
  | some '+' => some .keep
  | some '-' => some .strip
  | _ => none

/-- the digit of a header -/
def depth? (ch : Option Char) : Option Nat := ch.bind fun d => if Text.isDigit d then some (Text.digitValue d) else none

/-- reads a header, sign and digit in either order; a depth of zero is refused -/
def header? (c : Cursor) : Option (Header × Cursor) :=
  let (h, c) : Header × Cursor := match chomping? c.here? with
    | some k =>
      match depth? (c.ahead? 1) with
      | some d => (⟨k, some d⟩, c.skip 2)
      | none => (⟨k, none⟩, c.skip 1)
    | none =>
      match depth? c.here? with
      | some d =>
        match chomping? (c.ahead? 1) with
        | some k => (⟨k, some d⟩, c.skip 2)
        | none => (⟨.clip, some d⟩, c.skip 1)
      | none => (⟨.clip, none⟩, c)
  if h.depth = some 0 then none else some (h, c)

/-- the empty lines at the cursor, which are indented no deeper than given -/
structure Empties where
  breaks : List Char
  behind : Cursor
  deepest : Nat

/-- reads empty lines, and the indentation of the line behind them; a tab must not stand in for indentation -/
def empties? (indent : Option Nat) (c : Cursor) : Option Empties :=
  let spaces := c.rest.takeWhile (· = ' ')
  let wanted := match indent with
    | some n => min spaces.length (n - c.column)
    | none => spaces.length
  let behind := c.skip wanted
  if behind.sees '\t' && indent.all (behind.column < ·) then none
  else if behind.here?.any isBreak then
    let next := behind.skipBreak
    if _h : next.rest.length < c.rest.length then
      (empties? indent next).map fun e =>
        ⟨(behind.here?.map breakText).toList ++ e.breaks, e.behind, max behind.column e.deepest⟩
    else none
  else some ⟨[], behind, behind.column⟩
  termination_by c.rest.length

/-- the lines of a scalar from the cursor on, behind the line break and the empty lines that came last -/
def lines? (isLiteral : Bool) (chomping : Chomping) (indent : Nat) (last : List Char) (afterBlank : Bool)
    (empties : List Char) (c : Cursor) : Option (List Char × Cursor) :=
  if c.column = indent && !c.atEnd then
    let isBlankLine := c.here?.any isSpace
    let folds := !isLiteral && last = ['\n'] && !afterBlank && !isBlankLine
    let joint := if folds then (if empties.isEmpty then [' '] else []) else last
    let (line, c') := c.takeWhile (!isBreak ·)
    match empties? (some indent) c'.skipBreak with
    | none => none
    | some e =>
      if _h : e.behind.rest.length < c.rest.length then
        (lines? isLiteral chomping indent (c'.here?.map breakText).toList isBlankLine e.breaks e.behind).map fun r =>
          (joint ++ empties ++ line ++ r.1, r.2)
      else none
  else
    match chomping with
    | .strip => some ([], c)
    | .clip => some (last, c)
    | .keep => some (last ++ empties, c)
  termination_by c.rest.length

/-- reads a scalar behind its indicator; `outer` is the column of the block around it plus one -/
def read? (isLiteral : Bool) (outer : Nat) (c : Cursor) : Option (List Char × Cursor) := do
  let (h, c) ← header? c
  let c ← c.endLine?
  match h.depth with
  | some d =>
    let indent := outer - 1 + d
    let e ← empties? (some indent) c
    lines? isLiteral h.chomping indent [] false e.breaks e.behind
  | none =>
    let e ← empties? none c
    let indent := max e.deepest (max outer 1)
    lines? isLiteral h.chomping indent [] false e.breaks e.behind

end AdConfirm.Yaml.Block
