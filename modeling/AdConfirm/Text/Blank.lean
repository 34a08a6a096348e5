/-!
White space in the Unicode sense (property White_Space), and trimming it.
-/

namespace AdConfirm.Text

/-- the characters of the property White_Space -/
def isBlank (c : Char) : Bool :=
  let n := c.toNat
  (9 ≤ n && n ≤ 13) || n == 0x20 || n == 0x85 || n == 0xa0 || n == 0x1680 || (0x2000 ≤ n && n ≤ 0x200a)
    || n == 0x2028 || n == 0x2029 || n == 0x202f || n == 0x205f || n == 0x3000

/-- the text without leading characters of the class -/
def trimLeftIf (p : Char → Bool) (s : List Char) : List Char := s.dropWhile p

/-- the text without trailing characters of the class -/
def trimRightIf (p : Char → Bool) (s : List Char) : List Char := (s.reverse.dropWhile p).reverse

/-- the text without characters of the class at either end -/
def trimIf (p : Char → Bool) (s : List Char) : List Char := trimRightIf p (trimLeftIf p s)

/-- the text without white space at either end -/
def trim (s : List Char) : List Char := trimIf isBlank s

/-- whether the text holds white space alone -/
def isBlankText (s : List Char) : Bool := s.all isBlank

end AdConfirm.Text
