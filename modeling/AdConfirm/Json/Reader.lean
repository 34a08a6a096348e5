import AdConfirm.Json.Token

/-!
Reading JSON. The reader walks over the tokens once and keeps the arrays and objects it is inside of as frames, so a text
is accepted at any depth; limits on depth belong to what is made of the tree.
-/

namespace AdConfirm.Json

/-- an array or object that is not closed yet; members so far newest first -/
inductive Frame where
  | items (before : List Tree)
  | fields (before : List (Written × Tree)) (key : Written)

/-- what may come next -/
inductive Expect where
  | value (stack : List Frame)
  | itemOrEnd (stack : List Frame)
  | keyOrEnd (stack : List Frame)
  | key (before : List (Written × Tree)) (stack : List Frame)
  | colon (before : List (Written × Tree)) (key : Written) (stack : List Frame)
  | after (t : Tree) (stack : List Frame)

namespace Expect

def startValue (stack : List Frame) : Token → Option Expect
  | .null => some (.after .null stack)
  | .bool b => some (.after (.bool b) stack)
  | .number n => some (.after (.number n) stack)
  | .text s => some (.after (.text s) stack)
  | .arrayStart => some (.itemOrEnd stack)
  | .objectStart => some (.keyOrEnd stack)
  | _ => none

def step : Expect → Token → Option Expect
  | .value stack, t => startValue stack t
  | .itemOrEnd stack, .arrayEnd => some (.after (.array []) stack)
  | .itemOrEnd stack, t => startValue (.items [] :: stack) t
  | .keyOrEnd stack, .objectEnd => some (.after (.object []) stack)
  | .keyOrEnd stack, .text name => some (.colon [] name stack)
  | .keyOrEnd _, _ => none
  | .key before stack, .text name => some (.colon before name stack)
  | .key _ _, _ => none
  | .colon before name stack, .colon => some (.value (.fields before name :: stack))
  | .colon _ _ _, _ => none
  | .after t (.items before :: stack), .comma => some (.value (.items (t :: before) :: stack))
  | .after t (.items before :: stack), .arrayEnd => some (.after (.array (t :: before).reverse) stack)
  | .after t (.fields before name :: stack), .comma => some (.key ((name, t) :: before) stack)
  | .after t (.fields before name :: stack), .objectEnd =>
    some (.after (.object ((name, t) :: before).reverse) stack)
  | .after _ _, _ => none

/-- the value read, once it is complete and nothing is open -/
def done? : Expect → Option Tree
  | .after t [] => some t
  | _ => none

end Expect

/-- reads a JSON text, the whole of it or nothing -/
def Tree.read? (s : List Char) : Option Tree := do
  let state ← (← tokens? s).foldlM Expect.step (.value [])
  state.done?

end AdConfirm.Json
