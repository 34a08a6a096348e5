import AdConfirm.Cli.Arguments

/-!
The commands of the program: check a document, replay one through the pipeline, show the policy.
-/

namespace AdConfirm.Cli

/-- a document to be checked; a strict check fails if the document is rejected -/
structure ValidateCommand where
  file : String
  isStrict : Bool

/-- a document to be replayed as the page at a URL, and the ads whose views are requested, before the ingestion if early -/
structure ReplayCommand where
  document : String
  url : String
  views : List String
  isEarly : Bool
  trigger : Bool
  showsMetrics : Bool

inductive Command where
  | validate (c : ValidateCommand)
  | replay (c : ReplayCommand)
  | policy (asJson : Bool)

/-- a command with what goes for every command; the log level is not looked at when debugging -/
structure Invocation where
  config : Option String
  logLevel : String
  isDebugging : Bool
  command : Command

namespace Invocation

/-- the files that are looked into -/
def paths (i : Invocation) : List String :=
  i.config.toList ++ match i.command with
    | .validate c => [c.file]
    | .replay c => [c.document]
    | .policy _ => []

def grammar : Grammar :=
  ⟨[⟨"config", some 'c', .path⟩, ⟨"log-level", some 'l', .value⟩, ⟨"debug", some 'd', .flag⟩], 0,
    ["validate", "replay", "policy", "help"], true⟩

def validateGrammar : Grammar := ⟨[⟨"strict", none, .flag⟩], 1, [], false⟩

def replayGrammar : Grammar :=
  ⟨[⟨"document", none, .path⟩, ⟨"url", none, .value⟩, ⟨"view", none, .values⟩, ⟨"early", none, .flag⟩,
    ⟨"no-trigger", none, .flag⟩, ⟨"metrics", none, .flag⟩], 0, [], false⟩

def policyGrammar : Grammar := ⟨[⟨"json", none, .flag⟩], 0, [], false⟩

/-- the URL of a replayed page unless one is given -/
def replayUrl : String := "https://search.brave.com/search?q=replay"

def readCommand (name : String) (args : List String) : Except Stop Command :=
  match name with
  | "validate" => do
    let m ← validateGrammar.read args
    match m.operands with
    | [file] => return .validate ⟨file, m.has "strict"⟩
    | _ => throw .rejected
  | "replay" => do
    let m ← replayGrammar.read args
    match m.value? "document" with
    | some document => return .replay ⟨document, (m.value? "url").getD replayUrl, m.values "view", m.has "early",
        !m.has "no-trigger", m.has "metrics"⟩
    | none => throw .rejected
  | "policy" => do
    let m ← policyGrammar.read args
    return .policy (m.has "json")
  | _ =>
    match args with
    | [] => throw .help
    | [topic] => throw (if grammar.commands.contains topic then .help else .rejected)
    | _ => throw .rejected

def read (args : List String) : Except Stop Invocation := do
  let m ← grammar.read args
  match m.command with
  | none => throw .rejected
  | some (name, rest) =>
    let command ← readCommand name rest
    return ⟨m.value? "config", (m.value? "log-level").getD "info", m.has "debug", command⟩

end Invocation

end AdConfirm.Cli
