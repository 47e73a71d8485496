/-
  TreeSift.Text.Based — digits of a base.

  Digits beyond nine are the letters from a on, in either case. Numbers are written in base
  sixteen with small letters.

    §1 Reading  `hexValue?`, `isDigitIn`, `ofBase`
    §2 Writing  `hexDigit`, `hexDigits`
-/

namespace TreeSift.Text

/-! ## §1 Reading -/

/-- The value of a digit in base sixteen. -/
def hexValue? (c : Char) : Option Nat :=
  if c.isDigit then some (c.toNat - 0x30)
  else if 'a' ≤ c && c ≤ 'f' then some (c.toNat - 0x57)
  else if 'A' ≤ c && c ≤ 'F' then some (c.toNat - 0x37)
  else none

/-- Whether a character is a digit in a base up to sixteen. -/
def isDigitIn (base : Nat) (c : Char) : Bool := (hexValue? c).any (· < base)

/-- The number that digits of a base write, the first one weighing most. -/
def ofBase (base : Nat) (digits : List Char) : Nat :=
  digits.foldl (fun n c => base * n + (hexValue? c).getD 0) 0

/-! ## §2 Writing -/

/-- A digit in base sixteen. -/
def hexDigit (n : Nat) : Char :=
  if n < 10 then Char.ofNat (0x30 + n) else Char.ofNat (0x57 + n)

/-- A number in base sixteen with a given number of digits. -/
def hexDigits : Nat → Nat → List Char
  | 0, _ => []
  | width + 1, n => hexDigits width (n / 16) ++ [hexDigit (n % 16)]

end TreeSift.Text
