import AdConfirm.Json.Tree

/-!
Records read from JSON: an object with named members in any order, or an array of them in the record's own order.

Members that the record does not know are passed over, whatever they hold. A known member that is written twice, a key
that stands for no text, and an array with more members than the record has are refused.
-/

namespace AdConfirm.Json

def named (name : String) (fields : List (Written × Tree)) : List Tree :=
  (fields.filter fun f => f.1 == some name).map (·.2)

/-- the one member of a name: none if it is missing, refused if it is written twice -/
def single? (name : String) (fields : List (Written × Tree)) : Option (Option Tree) :=
  match named name fields with
  | [] => some none
  | [t] => some (some t)
  | _ => none

/-- the members of a record by their names, each present or not -/
def Tree.members? (names : List String) : Tree → Option (List (Option Tree))
  | .array items =>
    if items.length ≤ names.length then
      some (items.map some ++ List.replicate (names.length - items.length) none)
    else none
  | .object fields => if fields.all (·.1.isSome) then names.mapM fun n => single? n fields else none
  | _ => none

def Tree.asText? : Tree → Option String
  | .text s => s
  | _ => none

def textOrNull? : Option Tree → Option (Option String)
  | none => some none
  | some .null => some none
  | some t => t.asText?.map some

def Tree.asBool? : Tree → Option Bool
  | .bool b => some b
  | _ => none

end AdConfirm.Json
