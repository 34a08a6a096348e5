import AdConfirm.Policy.Setting

/-!
A policy at one revision: the value of every setting and where each came from.
-/

namespace AdConfirm.Policy

/-- where the value of a setting came from -/
inductive Source where
  | builtin
  | file
  | env
  | cli
  | runtimeOverride
  deriving DecidableEq

namespace Source

def all : List Source := [.builtin, .file, .env, .cli, .runtimeOverride]

def name : Source → String
  | .builtin => "Builtin"
  | .file => "File"
  | .env => "Env"
  | .cli => "Cli"
  | .runtimeOverride => "RuntimeOverride"

def ofName? (s : String) : Option Source := all.find? fun x => x.name == s

end Source

/-- an entry of the table of sources; it names its setting itself -/
structure Provenance where
  path : String
  source : Source
  deriving DecidableEq

structure Snapshot where
  rev : UInt64
  adsEnabled : Bool
  confirmationEvents : Bool
  allowedHosts : List String
  fetchTimeout : UInt64
  reportTimeout : UInt64
  provenance : Table Provenance

/-- variable that holds a JSON text of values -/
def jsonVariable : String := "SEARCHADS_POLICY_OVERRIDE_JSON"

/-- where a text comes from: a policy file, or the variable that holds a JSON text -/
inductive Origin where
  | file
  | variable

/-- what comes before the words of the parser if a text cannot be made out -/
def Origin.heading : Origin → String
  | .file => ""
  | .variable => jsonVariable ++ ": "

/-- why a policy cannot be had -/
inductive PolicyError where
  | reloadUnavailable
  | invalid (origin : Origin)
  | unreadable (path reason : String)
  | unsupportedPath (path : String)
  | invalidValue (fault : ValueFault)

/-- text of the error; that of an invalid text ends in the words of the parser, which are left out -/
def PolicyError.message : PolicyError → String
  | .reloadUnavailable => "reload unavailable: center was built from a fixed snapshot"
  | .invalid origin => "invalid policy: " ++ origin.heading
  | .unreadable path reason => "io error: " ++ path ++ ": " ++ reason
  | .unsupportedPath path => "unsupported policy path: " ++ path
  | .invalidValue fault => "invalid value: " ++ fault.message

/-- a value to be laid over a snapshot -/
structure Overlay where
  path : String
  value : Json.Value
  source : Source

namespace Snapshot

/-- hosts allowed unless a policy says otherwise -/
def defaultHosts : List String :=
  ["search.brave.com", "search.brave.software", "search.bravesoftware.com", "safesearch.brave.com",
    "safesearch.brave.software", "safesearch.bravesoftware.com"]

/-- the built-in values, their sources not recorded -/
def default : Snapshot := ⟨1, true, true, defaultHosts, 10000, 30000, Table.empty⟩

def blank : Snapshot := ⟨0, false, false, [], 0, 0, Table.empty⟩

def get (p : Snapshot) : (s : Setting) → s.Value
  | .adsEnabled => p.adsEnabled
  | .confirmationEvents => p.confirmationEvents
  | .allowedHosts => p.allowedHosts
  | .fetchTimeout => p.fetchTimeout
  | .reportTimeout => p.reportTimeout

def put (p : Snapshot) : (s : Setting) → s.Value → Snapshot
  | .adsEnabled, v => { p with adsEnabled := v }
  | .confirmationEvents, v => { p with confirmationEvents := v }
  | .allowedHosts, v => { p with allowedHosts := v }
  | .fetchTimeout, v => { p with fetchTimeout := v }
  | .reportTimeout, v => { p with reportTimeout := v }

def setSource (p : Snapshot) (path : String) (source : Source) : Snapshot :=
  { p with provenance := p.provenance.insert path ⟨path, source⟩ }

/-- a setting takes a value; the source is recorded only if that changes it -/
def merge (p : Snapshot) (s : Setting) (v : s.Value) (source : Source) : Snapshot :=
  if p.get s = v then p else (p.put s v).setSource s.path source

def lay (p : Snapshot) (o : Overlay) : Except PolicyError Snapshot :=
  match Setting.ofPath? o.path with
  | none => .error (.unsupportedPath o.path)
  | some s =>
    match s.read o.value with
    | .error fault => .error (.invalidValue fault)
    | .ok v => .ok (p.merge s v o.source)

/-- lays values over the snapshot one after the other -/
def layAll (p : Snapshot) (os : List Overlay) : Except PolicyError Snapshot := os.foldlM lay p

def start : Snapshot := Setting.all.foldl (fun p s => p.setSource s.path .builtin) default

end Snapshot

end AdConfirm.Policy
