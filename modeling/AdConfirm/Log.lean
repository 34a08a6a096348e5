import AdConfirm.Text.Ascii

/-!
Log lines: a level, a message and named fields, all as text. Every part of the library returns what it would log.
-/

namespace AdConfirm.Log

inductive Level where
  | error
  | warn
  | info
  | debug
  | trace
  deriving DecidableEq

namespace Level

/-- more is shown at a higher rank -/
def rank : Level → Nat
  | .error => 1
  | .warn => 2
  | .info => 3
  | .debug => 4
  | .trace => 5

def name : Level → String
  | .error => "ERROR"
  | .warn => "WARN"
  | .info => "INFO"
  | .debug => "DEBUG"
  | .trace => "TRACE"

def all : List Level := [.error, .warn, .info, .debug, .trace]

/-- a level by its name, in any case, or by its rank -/
def ofText? (s : String) : Option Level :=
  let digits := match s.toList with
    | '+' :: rest => rest
    | cs => cs
  match Text.numeral? 10 digits with
  | some n => all.find? fun l => l.rank = n
  | none => all.find? fun l => Text.sameIgnoringCase l.name s

/-- whether a line of the level is shown under a threshold -/
def shownUnder (l threshold : Level) : Bool := l.rank ≤ threshold.rank

end Level

structure Line where
  level : Level
  message : String
  fields : List (String × String)
  deriving DecidableEq

end AdConfirm.Log
