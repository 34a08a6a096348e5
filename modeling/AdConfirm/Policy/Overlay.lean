import AdConfirm.Policy.Snapshot

/-!
Overlays from texts: the leaves of a structured value, variables whose names spell paths, and a list of assignments.
-/

namespace AdConfirm.Policy

open AdConfirm.Json

/-- a key as a segment of a path: trimmed and lowered -/
def segment (key : String) : String := String.ofList (Text.lower (Text.trim key.toList))

/-- the path of a key inside a path; an empty outer path counts for nothing -/
def extend (outer : Option String) (key : String) : String :=
  match outer with
  | some p => if p = "" then segment key else p ++ "." ++ segment key
  | none => segment key

mutual

/-- leaves of a value with their paths; a value without a path has none -/
def leaves (path : Option String) : Value → List (String × Value)
  | .object fields => fieldLeaves path fields
  | v => match path with
    | some p => [(p, v)]
    | none => []

def fieldLeaves (path : Option String) : List (String × Value) → List (String × Value)
  | [] => []
  | (key, v) :: rest => leaves (some (extend path key)) v ++ fieldLeaves path rest

end

def overlaysOf (source : Source) (v : Value) : List Overlay :=
  (leaves none v).map fun l => ⟨l.1, l.2, source⟩

/-- a whole number of 64 bits with an optional sign -/
def readSigned? (s : List Char) : Option Value :=
  let (negative, ds) := match s with
    | '-' :: rest => (true, rest)
    | '+' :: rest => (false, rest)
    | rest => (false, rest)
  (Text.numeral? 10 ds).bind fun n =>
    if negative ∧ n ≠ 0 then
      if 2 * n ≤ UInt64.size then some (.number (.negative (Int64.ofInt (-(n : Int))))) else none
    else if 2 * n < UInt64.size then some (.number (.natural (UInt64.ofNat n)))
    else none

/-- what a text stands for: nothing, a JSON value, an integer, or itself -/
def readLoose (s : String) : Value :=
  if s = "" then .null
  else match Value.read? s with
    | some v => v
    | none => (readSigned? s.toList).getD (.text s)

/-- how the names of variables begin that set a value -/
def variableStart : String := "SEARCHADS_POLICY__"

def assignmentsVariable : String := "SEARCHADS_POLICY_CLI_OVERRIDES"

/-- the path that a variable's name spells: segments between doubled underscores, lowered, empty ones dropped -/
def variablePath? (name : String) : Option String :=
  (Text.afterStart? variableStart.toList name.toList).bind fun rest =>
    let segments := (Text.splitDoubled '_' rest).filter fun s => !s.isEmpty
    if segments.isEmpty then none
    else some (Text.joined "." (segments.map fun s => String.ofList (Text.lower s)))

def variableOverlay? (name value : String) : Option Overlay :=
  (variablePath? name).map fun p => ⟨p, readLoose value, .env⟩

/-- one assignment; without an equals sign it assigns nothing -/
def assignment? (token : List Char) : Option Overlay :=
  let token := Text.trim token
  let (path, value) := (Text.cutAt '=' token).getD (token, [])
  let path := Text.trim path
  if path.isEmpty then none else some ⟨String.ofList path, readLoose (String.ofList (Text.trim value)), .cli⟩

def assignments (s : String) : List Overlay := (Text.splitIf (· = ',') s.toList).filterMap assignment?

end AdConfirm.Policy
