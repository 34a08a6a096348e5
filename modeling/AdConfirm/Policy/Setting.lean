import AdConfirm.Json.Value
import AdConfirm.Text.Blank
import AdConfirm.Text.Split

/-!
The five settings of a policy, the paths that name them, and the values they take.

A switch takes a truth value, a time limit a positive whole number of 64 bits, and the list of allowed hosts takes an
array of texts, one text with commas or bars between hosts, or nothing. Hosts are trimmed and lowered, and empty ones
dropped.
-/

namespace AdConfirm.Policy

open AdConfirm.Json

inductive Setting where
  | adsEnabled
  | confirmationEvents
  | allowedHosts
  | fetchTimeout
  | reportTimeout
  deriving DecidableEq

/-- what is wrong with a value -/
inductive ValueFault where
  | notBool (v : Value)
  | notPositive
  | notInteger (v : Value)
  | notHost (v : Value)
  | notHostList (v : Value)

def ValueFault.message : ValueFault → String
  | .notBool v => "expected bool, got " ++ v.compact
  | .notPositive => "timeout must be positive"
  | .notInteger v => "expected positive integer, got " ++ v.compact
  | .notHost v => "expected host, got " ++ v.compact
  | .notHostList v => "expected host list, got " ++ v.compact

namespace Setting

def all : List Setting := [.adsEnabled, .confirmationEvents, .allowedHosts, .fetchTimeout, .reportTimeout]

def names : Setting → String × String
  | .adsEnabled => ("ads", "enabled")
  | .confirmationEvents => ("features", "search_result_ad_confirmation_events")
  | .allowedHosts => ("hosts", "allowed")
  | .fetchTimeout => ("ingest", "fetch_timeout_ms")
  | .reportTimeout => ("dispatch", "report_timeout_ms")

def path (s : Setting) : String := s.names.1 ++ "." ++ s.names.2

def ofPath? (p : String) : Option Setting := all.find? fun s => s.path == p

/-- what a setting holds; time limits are in milliseconds -/
abbrev Value : Setting → Type
  | .adsEnabled => Bool
  | .confirmationEvents => Bool
  | .allowedHosts => List String
  | .fetchTimeout => UInt64
  | .reportTimeout => UInt64

instance (s : Setting) : DecidableEq s.Value := by cases s <;> exact inferInstance

end Setting

def readSwitch (v : Value) : Except ValueFault Bool :=
  match v.asBool? with
  | some b => .ok b
  | none => .error (.notBool v)

/-- a positive whole number of 64 bits -/
def readTimeout (v : Value) : Except ValueFault UInt64 :=
  match v.asNatural? with
  | some n => if n = 0 then .error .notPositive else .ok n
  | none => .error (.notInteger v)

/-- a host as it is listed: trimmed and lowered -/
def hostName (s : List Char) : String := String.ofList (Text.lower (Text.trim s))

/-- what stands between hosts in one text -/
def isHostSeparator (c : Char) : Bool := c = ',' || c = '|'

/-- hosts as they are listed: trimmed, lowered, empty ones dropped -/
def hostNames (hosts : List (List Char)) : List String := (hosts.map hostName).filter fun h => h ≠ ""

def readHost (v : Value) : Except ValueFault (List Char) :=
  match v.asText? with
  | some s => .ok s.toList
  | none => .error (.notHost v)

/-- a list of hosts, in any of its forms -/
def readHosts : Value → Except ValueFault (List String)
  | .array items => (items.mapM readHost).map hostNames
  | .text s => .ok (hostNames (Text.splitIf isHostSeparator s.toList))
  | .null => .ok []
  | v => .error (.notHostList v)

def Setting.read : (s : Setting) → Json.Value → Except ValueFault s.Value
  | .adsEnabled, v => readSwitch v
  | .confirmationEvents, v => readSwitch v
  | .allowedHosts, v => readHosts v
  | .fetchTimeout, v => readTimeout v
  | .reportTimeout, v => readTimeout v

end AdConfirm.Policy
