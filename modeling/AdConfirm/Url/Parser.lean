import AdConfirm.Text.Blank
import AdConfirm.Url.Segments

/-!
Reading URLs, by the rules that browsers share, without a base to complete them from.

Blanks and controls around the text and line ends and tabs inside it are left out. Under a special scheme any number
of slashes and backslashes may follow the colon and a host is due; under any other one two slashes lead to a host, one to a
path, and anything else is an opaque path.
-/

namespace AdConfirm.Url

/-- the scheme in lower case and what follows its colon -/
def takeScheme? (s : List Char) : Option (List Char × List Char) :=
  (Text.cutAt ':' s).bind fun (front, after) =>
    match withoutBreaks front with
    | c :: rest =>
      if Text.isLetter c ∧ rest.all (fun c => Text.isLetter c || Text.isDigit c || ['+', '-', '.'].contains c) then
        some (Text.lower (c :: rest), after)
      else none
    | [] => none

/-- whether a character ends the part of a URL that names user, host and port -/
def endsAuthority (special : Bool) (c : Char) : Bool := c = '/' || c = '?' || c = '#' || (special && c = '\\')

/-- user name and password in front of the last at-sign, if there is one, and what follows it -/
def takeUserInfo (authority : List Char) : Option (List Char) × List Char :=
  let tail := (authority.reverse.takeWhile (· ≠ '@')).reverse
  if tail.length = authority.length then (none, authority)
  else (some (authority.take (authority.length - tail.length - 1)), tail)

/-- the host up to a colon outside brackets, and what follows -/
def takeHost (inBrackets : Bool) : List Char → List Char × List Char
  | [] => ([], [])
  | c :: rest =>
    if c = ':' ∧ !inBrackets then ([], c :: rest)
    else
      let (h, r) := takeHost (if c = '[' then true else if c = ']' then false else inBrackets) rest
      (c :: h, r)

/-- a port after a colon, and what follows it: nothing, or a path that begins with a backslash; the scheme's own port and an
empty one count as none -/
def readPort (scheme : List Char) : List Char → Except UrlError (Option Nat × List Char)
  | ':' :: s =>
    let digits := s.takeWhile Text.isDigit
    let rest := s.dropWhile Text.isDigit
    let n := Text.digitsValue digits
    if 65535 < n ∨ rest.head?.any (· ≠ '\\') then .error .invalidPort
    else .ok (if digits.isEmpty ∨ ownPort? scheme = some n then none else some n, rest)
  | _ => .ok (none, [])

/-! ## URLs -/

/-- query and fragment, each if its mark is there, cut off a text -/
def takeTail (special : Bool) (s : List Char) : List Char × Option (List Char) × Option (List Char) :=
  let (s, fragment) := match Text.cutAt '#' s with
    | some (s, f) => (s, some (percentEncode inFragment (withoutBreaks f)))
    | none => (s, none)
  match Text.cutAt '?' s with
  | some (s, q) => (s, some (percentEncode (inQuery special) (withoutBreaks q)), fragment)
  | none => (s, none, fragment)

/-- what a URL says before its path: user, password, host and port; `rest` is where the path begins already -/
structure Authority where
  username : List Char
  password : List Char
  host : Host
  port : Option Nat
  rest : List Char

/-- reads what stands before a path; `closed` says that more of the URL follows it -/
def readAuthority (scheme authority : List Char) (closed : Bool) : Except UrlError Authority := do
  let special := isSpecial scheme
  let (info, rest) := takeUserInfo authority
  if info = some [] ∧ rest.isEmpty ∧ closed then throw .emptyHost
  let (user, password) := match info with
    | none => ([], [])
    | some i => (Text.cutAt ':' i).getD (i, [])
  let (hostText, portText) := takeHost false rest
  if hostText.isEmpty ∧ (special ∨ portText ≠ [] ∨ info.any (· ≠ [])) then throw .emptyHost
  let host ← if special then Host.ofSpecial hostText else Host.ofOpaque hostText
  let (port, rest) ← readPort scheme portText
  return ⟨percentEncode inUserInfo user, percentEncode inUserInfo password, host, port, rest⟩

def readWithHost (scheme s : List Char) (query fragment : Option (List Char)) : Except UrlError Url := do
  let special := isSpecial scheme
  let hasTail := query.isSome || fragment.isSome
  let authority := s.takeWhile fun c => !endsAuthority special c
  let rest := s.dropWhile fun c => !endsAuthority special c
  let a ← readAuthority scheme authority (hasTail || !rest.isEmpty)
  let path := match a.rest, rest with
    | [], [] => if special then [[]] else []
    | [], _ :: rest => readSegments special rest
    | early, rest => readSegments special (early ++ rest)
  return {
    scheme, username := a.username, password := a.password, host := some a.host, port := a.port
    path := .segments path, query, fragment }

def takeSlash? (s : List Char) : Option (List Char) :=
  match s.dropWhile isBreak with
  | c :: rest => if c = '/' ∨ c = '\\' then some rest else none
  | [] => none

/-- the host of a local file's URL, none for this machine, and the path after its first slash; a drive in place of the host
belongs to the path, and without a host the slash that ends it does too -/
def readFileHost (s : List Char) : Except UrlError (Option Host × List Char) := do
  let name := s.takeWhile fun c => c ≠ '/' && c ≠ '\\'
  let rest := s.dropWhile fun c => c ≠ '/' && c ≠ '\\'
  let plain := withoutBreaks name
  if isDrive plain then return (none, s)
  if plain.isEmpty then return (none, rest)
  let host ← Host.ofSpecial plain
  return if host = .domain "localhost".toList then (none, rest) else (some host, rest.drop 1)

/-- a URL of a local file; the host is empty if there is none, and if the path begins with a drive -/
def readFile (s : List Char) (query fragment : Option (List Char)) : Except UrlError Url := do
  let (host, path) ← match takeSlash? s with
    | none => pure (none, s)
    | some rest => match takeSlash? rest with
      | none => pure (none, rest)
      | some rest => readFileHost rest
  let t := readFileSegments path
  return {
    scheme := fileScheme, username := [], password := []
    host := some (if t.hasDrive then .domain [] else host.getD (.domain [])), port := none
    path := .segments (trimLeading t.segments), query, fragment }

def parse (text : String) : Except UrlError Url :=
  match takeScheme? (Text.trimIf (· ≤ ' ') text.toList) with
  | none => .error .relativeWithoutBase
  | some (scheme, rest) =>
    let special := isSpecial scheme
    let (rest, query, fragment) := takeTail special rest
    if scheme = fileScheme then readFile rest query fragment
    else
      let rest := withoutBreaks rest
      if special then readWithHost scheme (rest.dropWhile fun c => c = '/' || c = '\\') query fragment
      else match rest with
        | '/' :: '/' :: rest => readWithHost scheme rest query fragment
        | '/' :: rest => .ok {
            scheme, username := [], password := [], host := none, port := none
            path := .segments (readSegments special rest), query, fragment }
        | rest => .ok {
            scheme, username := [], password := [], host := none, port := none
            path := .opaqueText (percentEncode isControl rest), query, fragment }

end AdConfirm.Url
