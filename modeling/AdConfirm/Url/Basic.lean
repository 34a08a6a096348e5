import AdConfirm.Url.Host

/-!
URLs taken apart, and written again.
-/

namespace AdConfirm

open AdConfirm.Url in
/-- the path: one opaque text, or segments -/
inductive Url.Path where
  | opaqueText (s : List Char)
  | segments (ss : List (List Char))
  deriving DecidableEq

/-- a URL taken apart; everything in it is in encoded form -/
structure Url where
  scheme : List Char
  username : List Char
  password : List Char
  host : Option Url.Host
  port : Option Nat
  path : Url.Path
  query : Option (List Char)
  fragment : Option (List Char)
  deriving DecidableEq

namespace Url

/-- schemes whose URLs always have a host, with their own ports -/
def ownPort? (scheme : List Char) : Option Nat :=
  match String.ofList scheme with
  | "http" => some 80
  | "ws" => some 80
  | "https" => some 443
  | "wss" => some 443
  | "ftp" => some 21
  | _ => none

def fileScheme : List Char := ['f', 'i', 'l', 'e']

/-- whether a scheme is one of those that the rules on hosts and backslashes are made for -/
def isSpecial (scheme : List Char) : Bool := (ownPort? scheme).isSome || scheme = fileScheme

def schemeText (u : Url) : String := String.ofList u.scheme

/-- text of the host, unless it is absent or empty -/
def hostText? (u : Url) : Option String :=
  match u.host with
  | none => none
  | some (.domain []) => none
  | some h => some (String.ofList h.print)

/-- user name and password in front of a host -/
def credentials (u : Url) : List Char :=
  if u.username.isEmpty ∧ u.password.isEmpty then []
  else u.username ++ (if u.password.isEmpty then [] else ':' :: u.password) ++ ['@']

def Path.print : Path → List Char
  | .opaqueText s => s
  | .segments ss => ss.flatMap fun s => '/' :: s

def print (u : Url) : String :=
  let authority := match u.host with
    | some h => ['/', '/'] ++ u.credentials ++ h.print ++
        (match u.port with
          | some p => ':' :: Nat.toDigits 10 p
          | none => [])
    | none => match u.path with
      | .segments ([] :: _ :: _) => ['/', '.']
      | _ => []
  let query := match u.query with
    | some q => '?' :: q
    | none => []
  let fragment := match u.fragment with
    | some f => '#' :: f
    | none => []
  String.ofList (u.scheme ++ ':' :: authority ++ u.path.print ++ query ++ fragment)

end Url

end AdConfirm
