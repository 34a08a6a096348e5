import AdConfirm.Yaml.Document
import AdConfirm.Yaml.Node.Numbered
import AdConfirm.Yaml.Scalar
import AdConfirm.Yaml.Token.Lexer

/-!
Documents read as JSON values. Aliases are replaced by what they refer to, within a limit on their number; collections nest
to a limited depth; keys are scalars, no two of a mapping the same. A tag that begins with `!` makes an object of its node,
with the tag as the only key.
-/

namespace AdConfirm.Yaml

/-- collections nest at most this deep -/
def maxDepth : Nat := 128

/-- a document has at most this many aliases for each of its marks, counted as often as they are come by -/
def aliasesPerMark : Nat := 100

/-- counts aliases down; none when there were too many, or nothing can be read -/
abbrev Reading (α : Type) := StateT Nat Option α

namespace Node

/-- the node itself, or what an alias refers to -/
def follow (d : Numbered) : Node Nat → Reading (Node Nat)
  | .alias i => fun left => if left = 0 then none else (d.target? i).map fun n => (n, left - 1)
  | n => pure n

/-- the part of a tag behind the mark of a tag of its own making -/
def ownTag? (p : Properties) : Option (List Char) :=
  match p.tag.map String.toList with
  | some ('!' :: rest) => some rest
  | _ => none

/-- what a scalar stands for within its own tag -/
def scalar? (p : Properties) (text : String) (isPlain : Bool) : Option Scalar :=
  match (ownTag? p).isSome, p.tag with
  | false, some tag => Scalar.ofTagged? tag text
  | _, _ => if isPlain then Scalar.ofPlain? text else some (.text text)

/-- puts a value under its own tag; one without a name is named by its mark -/
def underTag (p : Properties) (v : Json.Value) : Json.Value :=
  match ownTag? p with
  | none => v
  | some [] => .object [("!!", v)]
  | some name => .object [(.ofList ('!' :: name), v)]

def key (d : Numbered) (n : Node Nat) : Reading (Scalar × String) := do
  match ← n.follow d with
  | .scalar p text isPlain =>
    if (ownTag? p).isSome then fun _ => none
    else
      let s ← (scalar? p text isPlain : Option Scalar)
      let k ← (s.keyText? : Option String)
      return (s, k)
  | _ => fun _ => none

def scalarValue? (p : Properties) (text : String) (isPlain : Bool) : Option Json.Value :=
  (scalar? p text isPlain).map fun s => underTag p s.toValue

/-- the value of a node that nests no deeper than the bound -/
def valueIn (d : Numbered) : Nat → Node Nat → Reading Json.Value
  | 0, n => do
    match ← n.follow d with
    | .scalar p text isPlain => (scalarValue? p text isPlain : Option Json.Value)
    | _ => fun _ => none
  | depth + 1, n => do
    match ← n.follow d with
    | .scalar p text isPlain => (scalarValue? p text isPlain : Option Json.Value)
    | .sequence p items => return underTag p (.array (← items.mapM (valueIn d depth)))
    | .mapping p fields =>
      let read ← fields.mapM fun (f : Node Nat × Node Nat) => do
        let (s, k) ← key d f.1
        let v ← valueIn d depth f.2
        return (s, k, v)
      let keys := read.map (·.1)
      if keys.Pairwise (fun a b => ¬ a.isSameKey b) then
        return underTag p (.object (Table.ofList (read.map (·.2))).entries)
      else fun _ => none
    | .alias _ => fun _ => none

def toValue? (n : Node String) : Option Json.Value := do
  let d ← Numbered.ofNode? n
  let (v, _) ← valueIn d maxDepth d.root (aliasesPerMark * d.root.marks)
  return v

end Node

/-- reads a document, the whole text or nothing -/
def read? (s : String) : Option Json.Value := do
  let toks ← Token.ofText? s.toList
  let n ← Document.ofTokens? toks
  n.toValue?

end AdConfirm.Yaml
