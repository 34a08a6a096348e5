import AdConfirm.Yaml.Cursor

/-!
Plain scalars: words without quotes, joined across gaps. One ends before a colon that ends a word, before a comment, at a
line that is indented too little and, inside brackets, at a flow indicator.
-/

namespace AdConfirm.Yaml

/-- a scalar that was read: its text, the cursor behind it, and whether the cursor is on a new line since its last word -/
structure PlainScalar where
  text : List Char
  behind : Cursor
  onNewLine : Bool

namespace PlainScalar

/-- characters of a word; inside brackets a colon must not stand right before a flow indicator -/
def word? (inFlow : Bool) : List Char → Option (List Char)
  | [] => some []
  | c :: rest =>
    if isGap c then some []
    else if inFlow && c = ':' && rest.head?.any fun d => d = '?' || isFlowIndicator d then none
    else if c = ':' && rest.head?.all isGap then some []
    else if inFlow && isFlowIndicator c then some []
    else (word? inFlow rest).map (c :: ·)

/-- the words from the cursor on, which stands behind the given gap; lines go on while they reach the column -/
def readFrom? (inFlow : Bool) (indent : Nat) (before : Gap) (c : Cursor) : Option PlainScalar :=
  if c.atDocumentMark || c.sees '#' then some ⟨[], c, before.isBroken⟩
  else
    match word? inFlow c.rest with
    | none => none
    | some [] => some ⟨[], c, before.isBroken⟩
    | some word =>
      let text := before.text ++ word
      let behind := c.skip word.length
      if !behind.here?.any isGap then some ⟨text, behind, false⟩
      else
        let (gap, next) := behind.takeGap
        if gap.hasEarlyTab indent then none
        else if !inFlow && next.column < indent then some ⟨text, next, gap.isBroken⟩
        else if _h : next.rest.length < c.rest.length then
          (readFrom? inFlow indent gap next).map fun s => { s with text := text ++ s.text }
        else none
  termination_by c.rest.length

def read? (inFlow : Bool) (indent : Nat) (c : Cursor) : Option PlainScalar := readFrom? inFlow indent .none c

end PlainScalar

end AdConfirm.Yaml
