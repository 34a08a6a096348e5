/-!
Cutting a text at separators. Joining the pieces with the separator gives the text back, so nothing is lost between them.
-/

namespace AdConfirm.Text

/-- puts a character in front of the first piece -/
def consFirst (c : Char) : List (List Char) → List (List Char)
  | [] => [[c]]
  | piece :: rest => (c :: piece) :: rest

/-- pieces between the separators; one more piece than there are separators -/
def splitIf (sep : Char → Bool) : List Char → List (List Char)
  | [] => [[]]
  | c :: rest => if sep c then [] :: splitIf sep rest else consFirst c (splitIf sep rest)

/-- pieces between doubled characters, the first doubling taken first -/
def splitDoubled (d : Char) : List Char → List (List Char)
  | [] => [[]]
  | [c] => [[c]]
  | c :: e :: rest => if c = d ∧ e = d then [] :: splitDoubled d rest else consFirst c (splitDoubled d (e :: rest))

/-- what stands before and after the first occurrence of the character -/
def cutAt (d : Char) (s : List Char) : Option (List Char × List Char) :=
  match s.dropWhile (· ≠ d) with
  | [] => none
  | _ :: rest => some (s.takeWhile (· ≠ d), rest)

/-- the rest of a text that begins with the given one -/
def afterStart? : List Char → List Char → Option (List Char)
  | [], s => some s
  | _ :: _, [] => none
  | c :: start, d :: s => if c = d then afterStart? start s else none

/-- the pieces with a separator between each two -/
def join (sep : List Char) : List (List Char) → List Char
  | [] => []
  | [piece] => piece
  | piece :: rest => piece ++ sep ++ join sep rest

def joined (sep : String) (texts : List String) : String := String.intercalate sep texts

end AdConfirm.Text
