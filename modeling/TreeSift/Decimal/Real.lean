/-
  TreeSift.Decimal.Real — numbers with a fraction or an exponent in texts.

  A written number is a sign, if any, and digits with a decimal point, if any,
  among them or at one end, then an exponent, if any; one underscore may stand
  between two digits. The words for infinity and for what is no number are
  numbers too, in any case. Spaces around a number do not count.

    §1 Underscores  `dropUnderscores`
    §2 Parts        `Written`, `readWritten`
    §3 Numbers      `Written.value`, `readReal`
-/
import TreeSift.Decimal.Binary64
import TreeSift.Decimal.Integer

namespace TreeSift.Decimal

/-! ## §1 Underscores -/

/-- Leaves out underscores, each of which has to stand between two digits.
`afterDigit` tells whether the character before the list is a digit. -/
def dropUnderscores (afterDigit : Bool) : List Char → Option (List Char)
  | [] => some []
  | '_' :: c :: rest =>
    if afterDigit && c.isDigit then (dropUnderscores true rest).map (c :: ·) else none
  | c :: rest => if c = '_' then none else (dropUnderscores c.isDigit rest).map (c :: ·)

/-! ## §2 Parts -/

/-- A written number: the digits before the point, those after it and the
exponent. -/
structure Written where
  before : List Char
  after : List Char
  exponent : Int
  deriving DecidableEq, Repr

/-- The exponent that ends a number. -/
def readExponent : List Char → Option Int
  | [] => some 0
  | c :: rest =>
    if c = 'e' || c = 'E' then
      let (negative, digits) := readSign rest
      if digits.isEmpty || !digits.all Char.isDigit then none
      else
        let n : Int := ofDigits digits
        some (if negative then -n else n)
    else none

/-- The parts of a number without sign. -/
def readWritten (s : List Char) : Option Written :=
  let before := s.takeWhile Char.isDigit
  let rest := s.dropWhile Char.isDigit
  let (after, rest) :=
    match rest with
    | '.' :: more => (more.takeWhile Char.isDigit, more.dropWhile Char.isDigit)
    | _ => ([], rest)
  if before.isEmpty && after.isEmpty then none
  else (readExponent rest).map fun exponent => ⟨before, after, exponent⟩

/-! ## §3 Numbers -/

/-- A power of ten that no number reaches, either way. -/
def farPower : Int := 400

/-- The number that parts write. -/
def Written.value (negative : Bool) (w : Written) : Binary64 :=
  let n := ofDigits (w.before ++ w.after)
  let power := w.exponent - w.after.length
  let size : Int := (Nat.toDigits 10 n).length
  if n = 0 then .zero negative
  else if farPower < power + size then .infinite negative
  else if power + size < -farPower then .zero negative
  else if power < 0 then .ofRatio negative n (Nat.pow 10 (-power).toNat)
  else .ofRatio negative (n * Nat.pow 10 power.toNat) 1

/-- The number that a word stands for. -/
def ofWord? (negative : Bool) (s : List Char) : Option Binary64 :=
  let word := s.map Char.toLower
  if word = "inf".toList || word = "infinity".toList then some (.infinite negative)
  else if word = "nan".toList then some .nan
  else none

/-- The number that a text writes. -/
def readReal (s : String) : Option Binary64 := do
  let plainText ← dropUnderscores false (trimSpaces (plain s.toList))
  let (negative, rest) := readSign plainText
  match ofWord? negative rest with
  | some x => return x
  | none => return (← readWritten rest).value negative

end TreeSift.Decimal
