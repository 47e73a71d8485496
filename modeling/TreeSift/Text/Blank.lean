/-
  TreeSift.Text.Blank — blank characters and trimming.

  Blank are the white-space characters of Unicode together with the four
  information separators U+001C to U+001F. Zero-width characters (U+200B,
  U+FEFF) are not blank.
-/

namespace TreeSift.Text

/-- The code points of the blank characters. -/
def blanks : List Nat := [
  0x09, 0x0A, 0x0B, 0x0C, 0x0D, 0x1C, 0x1D, 0x1E, 0x1F, 0x20, 0x85, 0xA0, 0x1680,
  0x2000, 0x2001, 0x2002, 0x2003, 0x2004, 0x2005, 0x2006, 0x2007, 0x2008, 0x2009, 0x200A,
  0x2028, 0x2029, 0x202F, 0x205F, 0x3000]

/-- Whether a character is blank. -/
def isBlank (c : Char) : Bool := blanks.contains c.toNat

/-- A text without the blanks at its start. -/
def trimStart (s : List Char) : List Char := s.dropWhile isBlank

/-- A text without the blanks at its end. -/
def trimEnd (s : List Char) : List Char := (trimStart s.reverse).reverse

/-- A text without the blanks at its two ends. -/
def trimmed (s : List Char) : List Char := trimEnd (trimStart s)

/-- A text without the blanks at its two ends. -/
def trim (s : String) : String := String.ofList (trimmed s.toList)

end TreeSift.Text
