import AdConfirm.Log
import AdConfirm.Policy.Overlay
import AdConfirm.Text.Utf8
import AdConfirm.Yaml.Reader

/-!
Loading a policy: the built-in values, then each policy file that exists, then the variables of the environment, then
the assignments in it. Every overlay is checked even if a later one takes its place.
-/

namespace AdConfirm

/-- what is stored under a path -/
inductive Stored where
  | missing
  /-- the path leads through a file -/
  | blocked
  | folder
  | bytes (content : List UInt8)
  | unreadable (reason : String)

namespace Stored

/-- whether there is anything -/
def exists? : Stored → Bool
  | .missing => false
  | .blocked => false
  | _ => true

/-- the text stored, or why there is none -/
def text : Stored → Except String String
  | .missing => .error "No such file or directory (os error 2)"
  | .blocked => .error "Not a directory (os error 20)"
  | .folder => .error "Is a directory (os error 21)"
  | .unreadable reason => .error reason
  | .bytes content =>
    match Text.ofUtf8? content with
    | some s => .ok s
    | none => .error "stream did not contain valid UTF-8"

end Stored

/-- variables with their values, in the order in which they were set first. They are Unicode text: over one that is not, going
through the variables breaks down, and an environment that has one cannot be expressed -/
abbrev Environment := List (String × String)

namespace Environment

/-- sets a variable; one that is set already keeps its place -/
def set (name value : String) : Environment → Environment
  | [] => [(name, value)]
  | (n, v) :: rest => if n = name then (n, value) :: rest else (n, v) :: set name value rest

def unset (env : Environment) (name : String) : Environment := env.filter fun e => e.1 ≠ name

def value? (env : Environment) (name : String) : Option String := (env.find? fun e => e.1 == name).map (·.2)

end Environment

/-- what a policy is loaded from: the files by their paths, and the environment -/
structure Surroundings where
  file : String → Stored
  env : Environment

namespace Policy

/-- the files to load in their order, and whether to load the variables and the assignments -/
structure Options where
  paths : List String
  usesVariables : Bool
  usesAssignments : Bool

/-- overlays of a policy file; a blank one has none -/
def fileOverlays (path : String) (f : Stored) : Except PolicyError (List Overlay) :=
  match f.text with
  | .error reason => .error (.unreadable path reason)
  | .ok s =>
    if Text.isBlankText s.toList then .ok []
    else match Yaml.read? s with
      | none => .error (.invalid .file)
      | some v => .ok (overlaysOf .file v)

/-- loads the files that exist; returns also which ones were looked into -/
def loadFiles (file : String → Stored) (p : Snapshot) : List String → List String × Except PolicyError Snapshot
  | [] => ([], .ok p)
  | path :: rest =>
    if (file path).exists? then
      match fileOverlays path (file path) >>= p.layAll with
      | .error e => ([path], .error e)
      | .ok p =>
        let (looked, r) := loadFiles file p rest
        (path :: looked, r)
    else loadFiles file p rest

/-- overlays of the variables: those whose names spell paths, then the leaves of the JSON text -/
def variableOverlays (env : Environment) : Except PolicyError (List Overlay) :=
  let named := env.filterMap fun e => variableOverlay? e.1 e.2
  match env.value? jsonVariable with
  | none => .ok named
  | some s =>
    if Text.isBlankText s.toList then .ok named
    else match Json.Value.read? s with
      | none => .error (.invalid .variable)
      | some v => .ok (named ++ overlaysOf .env v)

def assignmentOverlays (env : Environment) : List Overlay := ((env.value? assignmentsVariable).map assignments).getD []

/-- loads a policy; returns also which files were looked into -/
def loadNoting (w : Surroundings) (o : Options) : List String × Except PolicyError Snapshot :=
  let (looked, r) := loadFiles w.file Snapshot.start o.paths
  (looked, do
    let p ← r
    let p ← if o.usesVariables then variableOverlays w.env >>= p.layAll else pure p
    if o.usesAssignments then p.layAll (assignmentOverlays w.env) else pure p)

def load (w : Surroundings) (o : Options) : Except PolicyError Snapshot := (loadNoting w o).2

def loadingLine (path : String) : Log.Line := ⟨.debug, "loading policy file", [("path", path)]⟩

end Policy

end AdConfirm
