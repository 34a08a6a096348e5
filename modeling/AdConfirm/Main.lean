import AdConfirm.Cli.Program

/-!
The program on a real machine: its arguments, its environment, and the files they name.
-/

namespace AdConfirm.Cli

/-- what is stored under a path; the system tells a file on the way (error 20) from a folder at the end -/
def readStored (path : String) : IO Stored := do
  try
    let bytes ← IO.FS.readBinFile path
    return .bytes bytes.toList
  catch e =>
    match e with
    | .noFileOrDirectory .. => return .missing
    | .inappropriateType _ code _ => return if code = 20 then .blocked else .folder
    | e => return .unreadable (toString e)

/-- the variables of the environment, as the system keeps them. If one of them is not Unicode text this finds none, where going
through them should break down -/
def readEnvironment : IO Environment := do
  try
    let bytes ← IO.FS.readBinFile "/proc/self/environ"
    let text := (String.fromUTF8? bytes).getD ""
    return (Text.splitIf (· = '\x00') text.toList).filterMap fun entry =>
      (Text.cutAt '=' entry).map fun (name, value) => (String.ofList name, String.ofList value)
  catch _ => return []

def freshTab : IO String := do
  let n ← IO.rand 0 (UInt64.size - 1)
  return "tab-" ++ String.ofList (Nat.toDigits 16 n)

/-- runs the program on the machine; the exit code -/
def runHere (args : List String) : IO UInt32 := do
  let paths := match Invocation.read args with
    | .ok i => i.paths
    | .error _ => []
  let files ← paths.mapM fun path => return (path, ← readStored path)
  let outcome := run ⟨fun path => (files.lookup path).getD .missing, ← readEnvironment⟩ (← freshTab) args
  IO.print outcome.stdout
  IO.eprint outcome.stderr
  return outcome.exit.toUInt32

end AdConfirm.Cli

def main (args : List String) : IO UInt32 := AdConfirm.Cli.runHere args
