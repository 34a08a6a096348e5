/-!
JSON as it is written: object fields in their order and with their repetitions, numbers as their digits.

A string may name half of a surrogate pair by an escape. Such a string stands for no text; it is kept as `none`, since a
reader that has no use for the string does not mind.
-/

namespace AdConfirm.Json

/-- a string as read: none if an escape in it names half of a surrogate pair -/
abbrev Written := Option String

/-- a JSON text -/
inductive Tree where
  | null
  | bool (b : Bool)
  | number (text : List Char)
  | text (s : Written)
  | array (items : List Tree)
  | object (fields : List (Written × Tree))
  deriving Inhabited

namespace Tree

def ofString (s : String) : Tree := .text (some s)

def ofNat (n : Nat) : Tree := .number (Nat.toDigits 10 n)

def ofInt (n : Int) : Tree :=
  if n < 0 then .number ('-' :: Nat.toDigits 10 n.natAbs) else .number (Nat.toDigits 10 n.natAbs)

def ofFields (fields : List (String × Tree)) : Tree := .object (fields.map fun f => (some f.1, f.2))

def ofOption {α : Type} (f : α → Tree) : Option α → Tree
  | none => .null
  | some a => f a

end Tree

end AdConfirm.Json
