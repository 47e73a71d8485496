/-
  TreeSift.Decimal.Integer — whole numbers in texts.

  A written whole number is a sign, if any, and digits; one underscore may stand
  between two digits. Spaces around it do not count. Texts with characters
  beyond ASCII may use the digits and the blanks of any script; a text within
  ASCII has six characters that count as space. More than 4300 digits are
  refused.

    §1 Plain texts    `plain`, `trimSpaces`
    §2 Whole numbers  `readDigits`, `readInteger`
-/
import TreeSift.Text.Blank
import TreeSift.Text.Numeral

namespace TreeSift.Decimal

/-! ## §1 Plain texts -/

/-- The character that a reader of numbers sees: digits and blanks of any
script are as those of ASCII, and a question mark stands for what is neither. -/
def plainChar (c : Char) : Char :=
  if c.toNat < 127 then c
  else if Text.isBlank c then ' '
  else
    match Text.digitValue? c with
    | some d => Char.ofNat (0x30 + d)
    | none => '?'

/-- A text as a reader of numbers sees it; a text within ASCII stays as it is. -/
def plain (s : List Char) : List Char :=
  if s.all fun c => c.toNat < 128 then s else s.map plainChar

/-- Whether a character counts as a space around a number. -/
def isSpace (c : Char) : Bool :=
  c == ' ' || (0x09 ≤ c.toNat && c.toNat ≤ 0x0D)

/-- A text without the spaces at its two ends. -/
def trimSpaces (s : List Char) : List Char :=
  ((s.dropWhile isSpace).reverse.dropWhile isSpace).reverse

/-! ## §2 Whole numbers -/

/-- The value of a digit in ASCII. -/
def digit (c : Char) : Nat := c.toNat - 0x30

/-- The number that digits write, the first one weighing most. -/
def ofDigits (s : List Char) : Nat := s.foldl (fun n c => 10 * n + digit c) 0

/-- The digits of a number in which an underscore may stand between two digits. -/
def readDigits : List Char → Option (List Char)
  | [] => none
  | [c] => if c.isDigit then some [c] else none
  | c :: '_' :: rest => if c.isDigit then (readDigits rest).map (c :: ·) else none
  | c :: rest => if c.isDigit then (readDigits rest).map (c :: ·) else none

/-- The sign at the start of a number, if there is one, and what follows it. -/
def readSign : List Char → Bool × List Char
  | '-' :: rest => (true, rest)
  | '+' :: rest => (false, rest)
  | s => (false, s)

/-- The greatest number of digits of a whole number that is read. -/
def maxDigits : Nat := 4300

/-- The whole number that a text writes. -/
def readInteger (s : String) : Option Int :=
  let (negative, rest) := readSign (trimSpaces (plain s.toList))
  match readDigits rest with
  | none => none
  | some ds =>
    if ds.length > maxDigits then none
    else if negative then some (-(ofDigits ds : Int))
    else some (ofDigits ds)

end TreeSift.Decimal
