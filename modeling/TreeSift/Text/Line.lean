/-
  TreeSift.Text.Line — lines of a text.

  A text is cut into lines at ten kinds of break; a carriage return followed by
  a line feed is one break. The last line needs no break, and a break at the
  very end starts no further line. Reading a text file first writes every
  carriage return, alone or before a line feed, as a line feed; that changes no
  line.
-/

namespace TreeSift.Text

/-- Whether a character ends a line. -/
def isLineBreak (c : Char) : Bool :=
  c == '\n' || c == '\r' || c == '\x0b' || c == '\x0c' || c == '\x1c' || c == '\x1d'
    || c == '\x1e' || c == '\u0085' || c == '\u2028' || c == '\u2029'

/-- Cuts the rest of a text into lines, after the lines that are complete (the
last one first) and the characters of the line that is not (also backwards). -/
def linesFrom (complete : List String) (line : List Char) : List Char → List String
  | [] => if line.isEmpty then complete else String.ofList line.reverse :: complete
  | '\r' :: '\n' :: rest => linesFrom (String.ofList line.reverse :: complete) [] rest
  | c :: rest =>
    if isLineBreak c then linesFrom (String.ofList line.reverse :: complete) [] rest
    else linesFrom complete (c :: line) rest

/-- The lines of a text, without their breaks. -/
def lines (s : String) : List String := (linesFrom [] [] s.toList).reverse

/-- Writes every carriage return as a line feed, one that stands before a line
feed together with it; `done` is what has been written, backwards. -/
def plainBreaksFrom (done : List Char) : List Char → List Char
  | [] => done.reverse
  | '\r' :: '\n' :: rest => plainBreaksFrom ('\n' :: done) rest
  | '\r' :: rest => plainBreaksFrom ('\n' :: done) rest
  | c :: rest => plainBreaksFrom (c :: done) rest

/-- A text with line feeds for all its carriage returns. -/
def plainBreaks (s : String) : String := String.ofList (plainBreaksFrom [] s.toList)

end TreeSift.Text
