/-
  TreeSift.Text.Quoted — a text between quotes, on one line.

  Messages show patterns and paths quoted: in single quotes, or in double
  quotes when the text holds a single quote and no double one. The quote in
  use, the backslash, line feed, carriage return and tab are written with a
  backslash; any other character that is not printable is written by its code
  in lower-case hexadecimal, with two, four or eight digits.
-/
import TreeSift.Text.Based
import TreeSift.Text.Printable

namespace TreeSift.Text

/-- A character as it stands inside quotes of a given kind. -/
def quotedChar (quote c : Char) : List Char :=
  if c = quote || c = '\\' then ['\\', c]
  else if c = '\n' then ['\\', 'n']
  else if c = '\r' then ['\\', 'r']
  else if c = '\t' then ['\\', 't']
  else if isPrintable c then [c]
  else if c.toNat < 0x100 then '\\' :: 'x' :: hexDigits 2 c.toNat
  else if c.toNat < 0x10000 then '\\' :: 'u' :: hexDigits 4 c.toNat
  else '\\' :: 'U' :: hexDigits 8 c.toNat

/-- The kind of quote a text is put between. -/
def quoteFor (s : List Char) : Char :=
  if s.contains '\'' && !s.contains '"' then '"' else '\''

/-- A text between quotes. -/
def quoted (s : String) : String :=
  let quote := quoteFor s.toList
  String.ofList (quote :: s.toList.flatMap (quotedChar quote) ++ [quote])

end TreeSift.Text
