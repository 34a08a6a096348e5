/-!
Nodes of a document: scalars, sequences and mappings, with the anchor and the tag that stand before them, and aliases to
nodes with an anchor. `ρ` is what an alias refers by: a name as it is read, a number once the anchors are numbered.
-/

namespace AdConfirm.Yaml

/-- what stands before a node -/
structure Properties where
  anchor : Option String
  tag : Option String
  deriving DecidableEq

namespace Properties

def none : Properties := ⟨.none, .none⟩

def isEmpty (p : Properties) : Bool := p.anchor.isNone && p.tag.isNone

end Properties

inductive Node (ρ : Type) where
  | alias (target : ρ)
  | scalar (before : Properties) (text : String) (isPlain : Bool)
  | sequence (before : Properties) (items : List (Node ρ))
  | mapping (before : Properties) (fields : List (Node ρ × Node ρ))

namespace Node

variable {ρ : Type}

/-- the scalar where nothing is written -/
def blank (p : Properties) : Node ρ := .scalar p "" true

mutual

/-- how many marks a reader of the document comes by in the node: one for a scalar or an alias, two for a collection -/
def marks : Node ρ → Nat
  | .alias _ => 1
  | .scalar _ _ _ => 1
  | .sequence _ items => 2 + marksOf items
  | .mapping _ fields => 2 + marksOfFields fields

def marksOf : List (Node ρ) → Nat
  | [] => 0
  | n :: rest => n.marks + marksOf rest

def marksOfFields : List (Node ρ × Node ρ) → Nat
  | [] => 0
  | (k, v) :: rest => k.marks + v.marks + marksOfFields rest

end

mutual

/-- the nodes with an anchor in the order in which they begin -/
def anchored : Node ρ → List (Node ρ)
  | .alias _ => []
  | .scalar p text isPlain => if p.anchor.isSome then [.scalar p text isPlain] else []
  | .sequence p items =>
    let inner := anchoredIn items
    if p.anchor.isSome then .sequence p items :: inner else inner
  | .mapping p fields =>
    let inner := anchoredInFields fields
    if p.anchor.isSome then .mapping p fields :: inner else inner

def anchoredIn : List (Node ρ) → List (Node ρ)
  | [] => []
  | n :: rest => n.anchored ++ anchoredIn rest

def anchoredInFields : List (Node ρ × Node ρ) → List (Node ρ)
  | [] => []
  | (k, v) :: rest => k.anchored ++ v.anchored ++ anchoredInFields rest

end

end Node

end AdConfirm.Yaml
