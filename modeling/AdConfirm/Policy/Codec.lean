import AdConfirm.Json.Members
import AdConfirm.Policy.Snapshot

/-!
Policies as JSON: a section for each group of settings, and the table of sources. When read, every member is required.
-/

namespace AdConfirm.Policy

open AdConfirm.Json

/-- a whole number of 64 bits without sign -/
def natural? : Option Tree → Option UInt64
  | some (.number s) =>
    match Number.ofText? s with
    | some (.natural n) => some n
    | _ => none
  | _ => none

def section? (key : String) (t : Option Tree) : Option Tree := do
  match (← t).members? [key] with
  | some [some v] => some v
  | _ => none

def sourceOfTree? : Tree → Option Source
  | .text (some s) => Source.ofName? s
  | .object [(some s, .null)] => Source.ofName? s
  | _ => none

/-- an entry of the table of sources -/
def provenanceOfTree? (t : Tree) : Option Provenance :=
  match t.members? ["path", "source"] with
  | some [some path, some source] => do return ⟨← path.asText?, ← sourceOfTree? source⟩
  | _ => none

def provenanceTable? : Tree → Option (Table Provenance)
  | .object fields => (fields.mapM fun (f : Written × Tree) => do return (← f.1, ← provenanceOfTree? f.2)).map Table.ofList
  | _ => none

def texts? : Tree → Option (List String)
  | .array items => items.mapM Tree.asText?
  | _ => none

def memberNames : List String := ["rev", "ads", "features", "hosts", "ingest", "dispatch", "provenance"]

def Snapshot.ofTree? (t : Tree) : Option Snapshot :=
  match t.members? memberNames with
  | some [rev, ads, features, hosts, ingest, dispatch, provenance] => do
    return {
      rev := ← natural? rev
      adsEnabled := ← (← section? Setting.adsEnabled.names.2 ads).asBool?
      confirmationEvents := ← (← section? Setting.confirmationEvents.names.2 features).asBool?
      allowedHosts := ← texts? (← section? Setting.allowedHosts.names.2 hosts)
      fetchTimeout := ← natural? (section? Setting.fetchTimeout.names.2 ingest)
      reportTimeout := ← natural? (section? Setting.reportTimeout.names.2 dispatch)
      provenance := ← provenanceTable? (← provenance) }
  | _ => none

def Setting.tree : (s : Setting) → s.Value → Tree
  | .adsEnabled, v => .bool v
  | .confirmationEvents, v => .bool v
  | .allowedHosts, v => .array (v.map .ofString)
  | .fetchTimeout, v => .ofNat v.toNat
  | .reportTimeout, v => .ofNat v.toNat

def Snapshot.sectionTree (p : Snapshot) (s : Setting) : String × Tree :=
  (s.names.1, .ofFields [(s.names.2, s.tree (p.get s))])

/-- an entry of the table of sources as it is written -/
def Provenance.toTree (e : Provenance) : Tree :=
  .ofFields [("path", .ofString e.path), ("source", .ofString e.source.name)]

def Snapshot.toTree (p : Snapshot) : Tree :=
  .ofFields ([("rev", .ofNat p.rev.toNat)] ++ Setting.all.map p.sectionTree ++
    [("provenance", .ofFields (p.provenance.entries.map fun e => (e.1, e.2.toTree)))])

end AdConfirm.Policy
