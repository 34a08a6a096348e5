import AdConfirm.Json.Tree
import AdConfirm.Text.Ascii

/-!
Printing JSON: compact, or with one member a line and two blanks for each level.

Quotes, backslashes and control characters are escaped, by a letter where JSON has one and by four hexadecimal digits
otherwise. Everything else stands for itself.
-/

namespace AdConfirm.Json

open AdConfirm.Text

/-- one character inside a string -/
def escapedChar (c : Char) : List Char :=
  if c = '"' then ['\\', '"']
  else if c = '\\' then ['\\', '\\']
  else if c = '\x08' then ['\\', 'b']
  else if c = '\x0c' then ['\\', 'f']
  else if c = '\n' then ['\\', 'n']
  else if c = '\r' then ['\\', 'r']
  else if c = '\t' then ['\\', 't']
  else if c < ' ' then ['\\', 'u', '0', '0', hexDigit (c.toNat / 16), hexDigit (c.toNat % 16)]
  else [c]

def printText (s : List Char) : List Char := '"' :: s.flatMap escapedChar ++ ['"']

/-- a string that may name half of a pair; such a one has no text and is printed empty -/
def printWritten (s : Written) : List Char := printText ((s.map String.toList).getD [])

mutual

def Tree.print : Tree → List Char
  | .null => ['n', 'u', 'l', 'l']
  | .bool true => ['t', 'r', 'u', 'e']
  | .bool false => ['f', 'a', 'l', 's', 'e']
  | .number n => n
  | .text s => printWritten s
  | .array items => '[' :: printItems items ++ [']']
  | .object fields => '\x7b' :: printFields fields ++ ['\x7d']

/-- items with commas between them -/
def printItems : List Tree → List Char
  | [] => []
  | [t] => t.print
  | t :: rest => t.print ++ ',' :: printItems rest

/-- fields with commas between them -/
def printFields : List (Written × Tree) → List Char
  | [] => []
  | [(k, t)] => printWritten k ++ ':' :: t.print
  | (k, t) :: rest => printWritten k ++ ':' :: t.print ++ ',' :: printFields rest

end

def newLine (level : Nat) : List Char := '\n' :: List.replicate (2 * level) ' '

mutual

def Tree.layOut (level : Nat) : Tree → List Char
  | .array [] => ['[', ']']
  | .array items => '[' :: layOutItems (level + 1) items ++ newLine level ++ [']']
  | .object [] => ['\x7b', '\x7d']
  | .object fields => '\x7b' :: layOutFields (level + 1) fields ++ newLine level ++ ['\x7d']
  | t => t.print

def layOutItems (level : Nat) : List Tree → List Char
  | [] => []
  | [t] => newLine level ++ t.layOut level
  | t :: rest => newLine level ++ t.layOut level ++ ',' :: layOutItems level rest

def layOutFields (level : Nat) : List (Written × Tree) → List Char
  | [] => []
  | [(k, t)] => newLine level ++ printWritten k ++ ':' :: ' ' :: t.layOut level
  | (k, t) :: rest =>
    newLine level ++ printWritten k ++ ':' :: ' ' :: t.layOut level ++ ',' :: layOutFields level rest

end

def Tree.compact (t : Tree) : String := String.ofList t.print

def Tree.indented (t : Tree) : String := String.ofList (t.layOut 0)

end AdConfirm.Json
