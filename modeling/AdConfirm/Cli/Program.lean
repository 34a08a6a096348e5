import AdConfirm.Ad.Codec
import AdConfirm.Cli.Replay
import AdConfirm.Page.Codec
import AdConfirm.Policy.Codec
import AdConfirm.Tab.Exposition
import AdConfirm.Url.Parser

/-!
The program as a function of its arguments and its surroundings. The log level is looked at first, then the policy is
loaded, then the command is done; the first failure ends it.
-/

namespace AdConfirm.Cli

/-- why the program fails -/
inductive Failure where
  | badLogLevel
  | noConfig (path : String)
  | badPolicy (e : Policy.PolicyError)
  | unreadable (path reason : String)
  | noDocument (path : String)
  | rejected (e : MarkupError)
  | badUrl (text : String) (e : Url.UrlError)

namespace Failure

def headline : Failure → String
  | .badLogLevel => "Invalid log level"
  | .noConfig path => "policy file not found: " ++ path
  | .badPolicy _ => "Failed to load policy"
  | .unreadable path _ => "Failed to read document " ++ path
  | .noDocument path => "Failed to parse document " ++ path
  | .rejected e => "document rejected: " ++ e.message
  | .badUrl text _ => "Invalid url " ++ text

/-- text about log levels -/
def levelMessage : String :=
  "error parsing level: expected one of \"error\", \"warn\", \"info\", \"debug\", \"trace\", or a number 1-5"

/-- the cause of a failure, where it has one of its own -/
def cause? : Failure → Option String
  | .badLogLevel => some levelMessage
  | .badPolicy (.invalid _) => none
  | .badPolicy e => some e.message
  | .unreadable _ reason => some reason
  | .badUrl _ e => some e.message
  | _ => none

/-- whether the fault lies in how a text is written; the headline then says all -/
def isMisspelt : Failure → Bool
  | .badPolicy (.invalid _) => true
  | .noDocument _ => true
  | _ => false

def indented (s : String) : String :=
  "    " ++ String.ofList (Text.join "\n    ".toList (Text.splitIf (· = '\n') s.toList))

/-- what the program says when it fails -/
def text (f : Failure) : String :=
  let first := "Error: " ++ f.headline
  match f.cause? with
  | some cause => first ++ "\n\nCaused by:\n" ++ indented cause ++ "\n"
  | none => if f.isMisspelt then first else first ++ "\n"

end Failure

/-- what the program prints, and the exit code -/
structure Outcome where
  exit : Nat
  stdout : String
  stderr : String
  deriving DecidableEq

/-- the policy that is in force: that of the file, if one is given, under the environment -/
def effectivePolicy (w : Surroundings) (config : Option String) : Except Failure Policy.Snapshot := do
  if let some path := config then
    if !(w.file path).exists? then throw (.noConfig path)
  match Policy.load w ⟨config.toList, true, true⟩ with
  | .ok p => return p
  | .error e => throw (.badPolicy e)

def readDocument (w : Surroundings) (path : String) : Except Failure WebPage :=
  match (w.file path).text with
  | .error reason => .error (.unreadable path reason)
  | .ok s =>
    match WebPage.read? s with
    | some p => .ok p
    | none => .error (.noDocument path)

def validate (w : Surroundings) (c : ValidateCommand) : Except Failure String := do
  let page ← readDocument w c.file
  match readPage page with
  | .ok ads => return ads.toTree.indented ++ "\n"
  | .error e => if c.isStrict then throw (.rejected e) else return (AdMap.toTree Table.empty).indented ++ "\n"

def runReplay (w : Surroundings) (policy : Policy.Snapshot) (tab : String) (c : ReplayCommand) : Except Failure String := do
  let page ← readDocument w c.document
  match Url.parse c.url with
  | .error e => throw (.badUrl c.url e)
  | .ok url =>
    let (report, p) := replay policy page url c tab
    return report.toTree.indented ++ "\n" ++ (if c.showsMetrics then p.sessions.metrics.text else "")

def boolText (b : Bool) : String := if b then "true" else "false"

def policyText (p : Policy.Snapshot) : String :=
  let sources := (p.provenance.values.map fun e => (e.path, e.source)).mergeSort (fun a b => a.1 ≤ b.1)
  "Policy Revision: " ++ toString p.rev.toNat ++ "\n\nAds → enabled=" ++ boolText p.adsEnabled
    ++ "\nFeatures → search_result_ad_confirmation_events=" ++ boolText p.confirmationEvents
    ++ "\nHosts → " ++ Text.joined ", " p.allowedHosts
    ++ "\nTimeouts → fetch_ms=" ++ toString p.fetchTimeout.toNat
    ++ ", report_ms=" ++ toString p.reportTimeout.toNat ++ "\n\n"
    ++ String.join (sources.map fun s => "  " ++ s.1 ++ " ← " ++ s.2.name ++ "\n")

def perform (w : Surroundings) (tab : String) (i : Invocation) : Except Failure String := do
  if !i.isDebugging && (Log.Level.ofText? i.logLevel).isNone then throw .badLogLevel
  let policy ← effectivePolicy w i.config
  match i.command with
  | .validate c => validate w c
  | .replay c => runReplay w policy tab c
  | .policy true => return policy.toTree.indented ++ "\n"
  | .policy false => return policyText policy

def versionText : String := "searchads 0.1.0\n"

def helpText : String :=
  "Search result ad ingestion and viewed-event dispatch\n\nUsage: searchads [OPTIONS] <COMMAND>\n\nCommands:\n"
    ++ "  validate  Validate a structured-data document and print the ads it carries\n"
    ++ "  replay    Run a document through the full pipeline with a logging reporter\n"
    ++ "  policy    Print the effective policy\n"

/-- runs the program; `tab` names the tab of a replay -/
def run (w : Surroundings) (tab : String) (args : List String) : Outcome :=
  match Invocation.read args with
  | .error .rejected => ⟨2, "", "error: arguments not accepted\n"⟩
  | .error .help => ⟨0, helpText, ""⟩
  | .error .version => ⟨0, versionText, ""⟩
  | .ok i =>
    match perform w tab i with
    | .ok s => ⟨0, s, ""⟩
    | .error f => ⟨1, "", f.text⟩

end AdConfirm.Cli
