import AdConfirm.Yaml.Node

/-!
Anchors by number. An anchor takes as its number how many names were known where it begins, and its name is known from there
on; an alias refers to the number that its name has at the time. Of several nodes with one number the last to begin counts.
-/

namespace AdConfirm.Yaml

/-- names with their numbers, the latest anchor first -/
abbrev Names := List (String × Nat)

namespace Names

def count : Names → Nat
  | [] => 0
  | (name, _) :: rest => if rest.any (·.1 == name) then count rest else count rest + 1

/-- the names once a node has begun -/
def begin (names : Names) (p : Properties) : Names :=
  match p.anchor with
  | some name => (name, names.count) :: names
  | none => names

end Names

namespace Node

mutual

/-- numbers the aliases; none if one has no anchor before it -/
def number? (names : Names) : Node String → Option (Node Nat × Names)
  | .alias name => (names.lookup name).map fun i => (.alias i, names)
  | .scalar p text isPlain => some (.scalar p text isPlain, names.begin p)
  | .sequence p items => (numberAll? (names.begin p) items).map fun r => (.sequence p r.1, r.2)
  | .mapping p fields => (numberFields? (names.begin p) fields).map fun r => (.mapping p r.1, r.2)

def numberAll? (names : Names) : List (Node String) → Option (List (Node Nat) × Names)
  | [] => some ([], names)
  | n :: rest => do
    let (n, names) ← number? names n
    let (rest, names) ← numberAll? names rest
    return (n :: rest, names)

def numberFields? (names : Names) : List (Node String × Node String) → Option (List (Node Nat × Node Nat) × Names)
  | [] => some ([], names)
  | (k, v) :: rest => do
    let (k, names) ← number? names k
    let (v, names) ← number? names v
    let (rest, names) ← numberFields? names rest
    return ((k, v) :: rest, names)

end

/-- a document with numbered aliases, and the nodes they refer to -/
structure Numbered where
  root : Node Nat
  targets : List (Nat × Node Nat)

namespace Numbered

def ofNode? (n : Node String) : Option Numbered :=
  (number? [] n).map fun r => ⟨r.1, ((r.2.reverse.map (·.2)).zip r.1.anchored).reverse⟩

def target? (d : Numbered) (i : Nat) : Option (Node Nat) := d.targets.lookup i

end Numbered

end Node

end AdConfirm.Yaml
