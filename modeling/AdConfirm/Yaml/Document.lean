import AdConfirm.Yaml.Node.Grammar

/-!
Documents over tokens. A text holds one document at most; it may declare the version and handles of tags, and be set off by
the marks `---` and `...`.
-/

namespace AdConfirm.Yaml

namespace Document

/-- what directives declare -/
structure Declared where
  isVersioned : Bool
  handles : Handles

/-- reads directives; none if one is repeated or of another version -/
def directives? (d : Declared) : List Token → Option (Declared × List Token)
  | .version major minor :: rest =>
    if !d.isVersioned && major = 1 && (minor = 1 || minor = 2) then directives? { d with isVersioned := true } rest else none
  | .handle name start :: rest =>
    if d.handles.any (·.1 == name) then none else directives? { d with handles := d.handles ++ [(name, start)] } rest
  | rest => some (d, rest)

/-- tokens that no document begins with unless a mark stands before it -/
def endsDocument : List Token → Bool
  | [] => true
  | .version _ _ :: _ => true
  | .handle _ _ :: _ => true
  | .documentStart :: _ => true
  | .documentEnd :: _ => true
  | _ => false

/-- whether nothing but the mark at the end is left -/
def isOver (toks : List Token) : Bool := (toks.dropWhile (· = .documentEnd)).isEmpty

/-- whether a document is set off by directives or a mark -/
def isSetOff : List Token → Bool
  | .version _ _ :: _ => true
  | .handle _ _ :: _ => true
  | .documentStart :: _ => true
  | _ => false

/-- the node of the document that the tokens are; the blank one if there are none -/
def ofTokens? (toks : List Token) : Option (Node String) := do
  let depth := toks.length
  let (n, rest) ←
    if toks.isEmpty then some (.blank .none, [])
    else if isSetOff toks then do
      let (d, rest) ← directives? ⟨false, []⟩ toks
      match rest with
      | .documentStart :: rest =>
        if endsDocument rest then some (.blank .none, rest)
        else Node.read? (d.handles ++ .standard) depth true false rest
      | _ => none
    else Node.read? .standard depth true false toks
  if isOver rest then return n else none

end Document

end AdConfirm.Yaml
