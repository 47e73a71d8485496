/-
  TreeSift.Decimal.Based — whole numbers of a base in texts.

  A whole number of a base is a sign, if any, and digits; in bases two, eight and
  sixteen a nothing and the letter of the base may stand before the digits. Spaces
  around it do not count. Of more than 4300 decimal digits no number is made.

    §1 Faults   `longMessage`, `illFormedMessage`
    §2 Numbers  `readBased`
-/
import TreeSift.Decimal.Integer
import TreeSift.Text.Based
import TreeSift.Text.Quoted

namespace TreeSift.Decimal

/-! ## §1 Faults -/

/-- What is said of a number with too many digits. -/
def longMessage (digits : Nat) : String :=
  s!"Exceeds the limit ({maxDigits} digits) for integer string conversion: value has {digits} "
    ++ "digits; use sys.set_int_max_str_digits() to increase the limit"

/-- The number of characters of a text that are shown when it is no number. -/
def shownLength : Nat := 200

/-- What is said of a text that is no number of a base. -/
def illFormedMessage (base : Nat) (s : List Char) : String :=
  s!"invalid literal for int() with base {base}: "
    ++ String.ofList ((Text.quoted (String.ofList s)).toList.take shownLength)

/-! ## §2 Numbers -/

/-- The letter of a base. -/
def baseLetter? : Nat → Option Char
  | 2 => some 'b'
  | 8 => some 'o'
  | 16 => some 'x'
  | _ => none

/-- A number without the mark of its base. -/
def dropBase (base : Nat) : List Char → List Char
  | '0' :: c :: rest => if baseLetter? base = some c.toLower then rest else '0' :: c :: rest
  | s => s

/-- The whole number of a base that a text writes, or what is said if it writes none. -/
def readBased (base : Nat) (s : List Char) : Except String Int :=
  let (negative, rest) := readSign (trimSpaces (plain s))
  let body := dropBase base rest
  let digits := body.takeWhile (Text.isDigitIn base)
  if base = 10 && maxDigits < digits.length then .error (longMessage digits.length)
  else if digits.isEmpty || digits.length < body.length then .error (illFormedMessage base s)
  else
    let n : Int := Text.ofBase base digits
    .ok (if negative then -n else n)

end TreeSift.Decimal
