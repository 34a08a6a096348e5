import AdConfirm.Json.Members
import AdConfirm.Json.Value
import AdConfirm.Page.Document

/-!
Pages as JSON. Every record of a page is an object with its members in a fixed order when written, and an object in any
order or an array when read. Each record and each list takes one level of the depth a reader allows.
-/

namespace AdConfirm

open AdConfirm.Json

def boolItems? (items : List Tree) : Option (List Bool) := items.mapM Tree.asBool?

/-- a 64-bit integer, written without point or power -/
def Json.Tree.asLong? : Tree → Option Int64
  | .number s => (Number.ofText? s).bind fun n => n.toInt?.bind fun i =>
      if Int64.minValue.toInt ≤ i ∧ i ≤ Int64.maxValue.toInt then some (Int64.ofInt i) else none
  | _ => none

mutual

def Entity.ofTree? : Nat → Tree → Option Entity
  | 0, _ => none
  | depth + 1, t =>
    match t.members? ["type", "properties"] with
    | some [some type, properties] =>
      match type.asText?, properties with
      | some s, none => some (.mk s [])
      | some s, some ps => (propertiesOfTree? depth ps).map (.mk s)
      | none, _ => none
    | _ => none

def propertiesOfTree? : Nat → Tree → Option (List Property)
  | depth + 1, .array items => items.mapM (Property.ofTree? depth)
  | _, _ => none

def Property.ofTree? : Nat → Tree → Option Property
  | 0, _ => none
  | depth + 1, t =>
    match t.members? ["name", "values"] with
    | some [some name, some values] =>
      match name.asText? with
      | some s => (Values.ofTree? depth values).map (.mk s)
      | none => none
    | _ => none

/-- values within the depth: an object with the kind as its only key -/
def Values.ofTree? : Nat → Tree → Option Values
  | depth + 1, .object [(some kind, t)] =>
    if kind = "entities" then (entitiesOfTree? depth t).map .entities
    else match depth, t with
      | _ + 1, .array items =>
        if kind = "bools" then (boolItems? items).map .bools
        else if kind = "longs" then (items.mapM Tree.asLong?).map .longs
        else if kind = "strings" then (items.mapM Tree.asText?).map .strings
        else none
      | _, _ => none
  | _, _ => none

def entitiesOfTree? : Nat → Tree → Option (List Entity)
  | depth + 1, .array items => items.mapM (Entity.ofTree? depth)
  | _, _ => none

end

def WebPage.ofTree? : Nat → Tree → Option WebPage
  | 0, _ => none
  | depth + 1, t =>
    match t.members? ["url", "title", "entities"] with
    | some [url, title, entities] => do
      let url ← textOrNull? url
      let title ← textOrNull? title
      let entities ← match entities with
        | none => some []
        | some es => entitiesOfTree? depth es
      return ⟨url, title, entities⟩
    | _ => none

/-- reads a page, the whole text or nothing -/
def WebPage.read? (s : String) : Option WebPage := (Tree.read? s.toList).bind (WebPage.ofTree? Value.maxDepth)

mutual

def Entity.toTree : Entity → Tree
  | .mk type properties =>
    .ofFields [("type", .ofString type), ("properties", .array (propertyTrees properties))]

def propertyTrees : List Property → List Tree
  | [] => []
  | p :: rest => p.toTree :: propertyTrees rest

def Property.toTree : Property → Tree
  | .mk name values => .ofFields [("name", .ofString name), ("values", values.toTree)]

def Values.toTree : Values → Tree
  | .bools items => .ofFields [("bools", .array (items.map .bool))]
  | .longs items => .ofFields [("longs", .array (items.map fun n => .ofInt n.toInt))]
  | .strings items => .ofFields [("strings", .array (items.map .ofString))]
  | .entities items => .ofFields [("entities", .array (entityTrees items))]

def entityTrees : List Entity → List Tree
  | [] => []
  | e :: rest => e.toTree :: entityTrees rest

end

def WebPage.toTree (p : WebPage) : Tree :=
  .ofFields [("url", .ofOption .ofString p.url), ("title", .ofOption .ofString p.title),
    ("entities", .array (entityTrees p.entities))]

def WebPage.print (p : WebPage) : String := p.toTree.compact

end AdConfirm
