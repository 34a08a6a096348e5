import AdConfirm.Json.Number
import AdConfirm.Json.Printer
import AdConfirm.Json.Reader
import AdConfirm.Table

/-!
JSON values: what a tree says once the order and repetition of fields no longer matter. Of two equal keys the last one
counts, fields are listed by key, and arrays and objects nest to a limited depth.
-/

namespace AdConfirm.Json

inductive Value where
  | null
  | bool (b : Bool)
  | number (n : Number)
  | text (s : String)
  | array (items : List Value)
  | object (fields : List (String × Value))
  deriving Inhabited

namespace Value

/-- arrays and objects nest at most this deep -/
def maxDepth : Nat := 127

/-- the value of a tree that nests no deeper than the bound; none also for an infinite number or half of a pair -/
def ofTree? : Nat → Tree → Option Value
  | _, .null => some .null
  | _, .bool b => some (.bool b)
  | _, .number n => (Number.ofText? n).map .number
  | _, .text s => s.map .text
  | 0, .array _ => none
  | 0, .object _ => none
  | depth + 1, .array items => (items.mapM (ofTree? depth)).map .array
  | depth + 1, .object fields =>
    (fields.mapM fun (f : Written × Tree) => do
      let key ← f.1
      let v ← ofTree? depth f.2
      return (key, v)).map fun fs => .object (Table.ofList fs).entries

mutual

def toTree : Value → Tree
  | .null => .null
  | .bool b => .bool b
  | .number n => .number n.print
  | .text s => .text (some s)
  | .array items => .array (toTrees items)
  | .object fields => .object (toFields fields)

def toTrees : List Value → List Tree
  | [] => []
  | v :: rest => v.toTree :: toTrees rest

def toFields : List (String × Value) → List (Written × Tree)
  | [] => []
  | (k, v) :: rest => (some k, v.toTree) :: toFields rest

end

/-- reads a value, the whole text or nothing -/
def read? (s : String) : Option Value := (Tree.read? s.toList).bind (ofTree? maxDepth)

def compact (v : Value) : String := v.toTree.compact

def asBool? : Value → Option Bool
  | .bool b => some b
  | _ => none

/-- a whole number of 64 bits without sign -/
def asNatural? : Value → Option UInt64
  | .number (.natural n) => some n
  | _ => none

def asText? : Value → Option String
  | .text s => some s
  | _ => none

end Value

end AdConfirm.Json
