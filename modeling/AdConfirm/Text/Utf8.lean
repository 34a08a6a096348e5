/-!
Text as UTF-8 bytes, and bytes read as text, all or nothing.
-/

namespace AdConfirm.Text

/-- the text whose UTF-8 form the bytes are, if they are one -/
def ofUtf8? (bytes : List UInt8) : Option String := String.fromUTF8? ⟨bytes.toArray⟩

def utf8 (s : String) : List UInt8 := s.toUTF8.toList

/-- how many bytes the UTF-8 form of some characters has -/
def utf8Size (s : List Char) : Nat := s.foldr (fun c n => c.utf8Size + n) 0

end AdConfirm.Text
