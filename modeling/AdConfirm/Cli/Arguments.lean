/-!
Arguments of a command line: flags, options with a value, operands, and a command with arguments of its own.

A long name begins with two hyphens and takes its value behind an equals sign or from the next argument. Short names are
single letters behind one hyphen; flags may stand together, and the letter of an option takes the rest as its value. An
argument that begins with a hyphen is no value by itself, a lone hyphen excepted. Behind `--` all arguments are operands.
Names may not be repeated unless the option is made for it. Reading stops at the first fault, or at a call for help.
-/

namespace AdConfirm.Cli

/-- what an option takes: nothing, a value, the path of a file (which is not empty), or a value each time it is given -/
inductive Kind where
  | flag
  | value
  | path
  | values
  deriving DecidableEq

structure OptionSpec where
  long : String
  short : Option Char
  kind : Kind

/-- what a command line may hold: options, operands (paths of files), commands, and whether a version can be asked for -/
structure Grammar where
  options : List OptionSpec
  operands : Nat
  commands : List String
  hasVersion : Bool

/-- why reading stops before the end -/
inductive Stop where
  | rejected
  | help
  | version
  deriving DecidableEq

/-- what was read: options with their values in their order, operands, and a command with the arguments left to it -/
structure Match where
  given : List (String × String)
  operands : List String
  command : Option (String × List String)

namespace Match

def empty : Match := ⟨[], [], none⟩

def has (m : Match) (name : String) : Bool := m.given.any (·.1 == name)

def values (m : Match) (name : String) : List String := (m.given.filter (·.1 == name)).map (·.2)

def value? (m : Match) (name : String) : Option String := (m.values name).head?

/-- adds an option; one that is not made for it may not be repeated, and a path may not be empty -/
def add (m : Match) (o : OptionSpec) (v : String) : Except Stop Match :=
  if o.kind ≠ .values && m.has o.long then .error .rejected
  else if o.kind = .path && v.isEmpty then .error .rejected
  else .ok { m with given := m.given ++ [(o.long, v)] }

/-- adds operands, no more than there may be -/
def addOperands (m : Match) (most : Nat) (vs : List String) : Except Stop Match :=
  if most < m.operands.length + vs.length || vs.any (·.isEmpty) then .error .rejected
  else .ok { m with operands := m.operands ++ vs }

end Match

/-- whether an argument can be the value of the option before it -/
def isValue (arg : String) : Bool := arg == "-" || arg.toList.head? ≠ some '-'

/-- what a cluster of short names comes to: all were flags, or the last one takes the next argument -/
inductive Cluster where
  | done (m : Match)
  | wants (m : Match) (o : OptionSpec)

namespace Grammar

def readCluster (g : Grammar) (m : Match) : List Char → Except Stop Cluster
  | [] => .ok (.done m)
  | c :: rest =>
    match g.options.find? (·.short == some c) with
    | some o =>
      if o.kind = .flag then
        match m.add o "" with
        | .ok m => g.readCluster m rest
        | .error e => .error e
      else
        match rest with
        | [] => .ok (.wants m o)
        | '=' :: v => (m.add o (.ofList v)).map .done
        | v => (m.add o (.ofList v)).map .done
    | none =>
      if c = 'h' then .error .help
      else if c = 'V' && g.hasVersion then .error .version
      else .error .rejected

/-- reads a long name, with its value if one stands behind an equals sign -/
def readLong (g : Grammar) (m : Match) (name : String) (v : Option String) : Except Stop Cluster :=
  match g.options.find? (·.long == name) with
  | some o =>
    match o.kind, v with
    | .flag, none => (m.add o "").map .done
    | .flag, some _ => .error .rejected
    | _, none => .ok (.wants m o)
    | _, some v => (m.add o v).map .done
  | none =>
    if v.isSome then .error .rejected
    else if name = "help" then .error .help
    else if name = "version" && g.hasVersion then .error .version
    else .error .rejected

def readOption (g : Grammar) (m : Match) (arg : String) : Except Stop Cluster :=
  match arg.toList with
  | '-' :: '-' :: text =>
    let name := text.takeWhile (· ≠ '=')
    g.readLong m (.ofList name) ((text.drop name.length).tail?.map String.ofList)
  | text => g.readCluster m text.tail

/-- reads on to the end of the arguments, or to a command -/
def readFrom (g : Grammar) (m : Match) (args : List String) : Except Stop Match :=
  match args with
  | [] => .ok m
  | arg :: rest =>
    if arg = "--" then m.addOperands g.operands rest
    else if isValue arg then
      if g.commands.isEmpty then
        match m.addOperands g.operands [arg] with
        | .ok m => readFrom g m rest
        | .error e => .error e
      else if g.commands.contains arg then .ok { m with command := some (arg, rest) }
      else .error .rejected
    else
      match g.readOption m arg with
      | .error e => .error e
      | .ok (.done m) => readFrom g m rest
      | .ok (.wants m o) =>
        match rest with
        | [] => .error .rejected
        | v :: rest =>
          if isValue v then
            match m.add o v with
            | .ok m => readFrom g m rest
            | .error e => .error e
          else .error .rejected

def read (g : Grammar) (args : List String) : Except Stop Match := g.readFrom .empty args

end Grammar

end AdConfirm.Cli
