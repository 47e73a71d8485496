/-
  TreeSift.Decimal.Shortest — the fewest digits that read back.

  A number is written with as few decimal digits as still lead back to it when
  they are rounded to the nearest number; of several such texts of one length it
  is the one nearest to the number, and of two equally near ones the one with an
  even last digit.

  The digits are looked for on decimal grids: among those with one, two, …
  seventeen digits the first grid wins on which one of the two neighbours of the
  number rounds to it.

    §1 Grids    `digitsAt?`, `shortest`
    §2 Notation `Notation`, `Binary64.render`
-/
import TreeSift.Decimal.Binary64

namespace TreeSift.Decimal

/-! ## §1 Grids -/

/-- A fraction times a power of ten. -/
def tenfold (num den : Nat) (power : Int) : Nat × Nat :=
  if power < 0 then (num, den * Nat.pow 10 (-power).toNat) else (num * Nat.pow 10 power.toNat, den)

/-- Whether a fraction is a power of ten or more. -/
def reachesTen (num den : Nat) (power : Int) : Bool :=
  let (n, d) := tenfold num den (-power)
  d ≤ n

/-- The position of the decimal point before the digits of a fraction: one more
than the greatest power of ten that it reaches. -/
def pointOf (num den : Nat) : Int :=
  let guess := ((num.log2 : Int) - (den.log2 : Int)) * 30103 / 100000
  if reachesTen num den (guess + 1) then guess + 2
  else if reachesTen num den guess then guess + 1
  else if reachesTen num den (guess - 1) then guess
  else guess - 1

/-- A finite number as a fraction, and the ends of the interval of fractions
that are rounded to it, all over the same denominator. -/
structure Interval where
  low : Nat
  value : Nat
  high : Nat
  den : Nat
  /-- Whether the ends belong to the interval. -/
  closed : Bool

/-- The interval of a whole number times a power of two. -/
def intervalOf (whole : Nat) (power : Int) : Interval :=
  let least := Binary64.leastPower
  let below := if whole = Nat.pow 2 52 && least < power then 1 else 2
  let (scale, den) :=
    if power < 2 then (1, Nat.pow 2 (2 - power).toNat) else (Nat.pow 2 (power - 2).toNat, 1)
  ⟨(4 * whole - below) * scale, 4 * whole * scale, (4 * whole + 2) * scale, den, whole % 2 = 0⟩

/-- Whether a point of a grid, `n` units of a power of ten, lies in an interval. -/
def Interval.holds (i : Interval) (n : Nat) (unit : Int) : Bool :=
  let (p, q) := tenfold n 1 unit
  let lowSide := i.low * q
  let highSide := i.high * q
  let point := p * i.den
  if i.closed then lowSide ≤ point && point ≤ highSide else lowSide < point && point < highSide

/-- The point of the grid with a given number of digits that is written for a
number, if one of its two neighbours rounds to it. -/
def digitsAt? (i : Interval) (point : Int) (digits : Nat) : Option Nat :=
  let unit := point - digits
  let (n, d) := tenfold i.value i.den (-unit)
  let lower := n / d
  let upper := lower + 1
  match i.holds lower unit, i.holds upper unit with
  | false, false => none
  | true, false => some lower
  | false, true => some upper
  | true, true =>
    let double := 2 * (n % d)
    if double < d then some lower
    else if d < double then some upper
    else if lower % 2 = 0 then some lower
    else some upper

/-- The first grid, of `rounds` ones from a number of digits on, with a point to
be written: the point and its number of digits. -/
def firstGrid (i : Interval) (point : Int) (digits : Nat) : Nat → Nat × Nat
  | 0 => (0, digits)
  | rounds + 1 =>
    match digitsAt? i point digits with
    | some n => (n, digits)
    | none => firstGrid i point (digits + 1) rounds

/-- The digits of a number greater than nothing, without zeros at the end, and
the position of the decimal point before them. -/
def shortest (whole : Nat) (power : Int) : List Char × Int :=
  let i := intervalOf whole power
  let point := pointOf i.value i.den
  let (n, count) := firstGrid i point 1 17
  let digits := Nat.toDigits 10 n
  let point := point + (digits.length - count : Int)
  ((digits.reverse.dropWhile (· == '0')).reverse, point)

/-! ## §2 Notation -/

/-- How numbers are written: where the positional notation ends, and how many
digits an exponent has at least. -/
structure Notation where
  /-- The point has to be after this position. -/
  afterPoint : Int
  /-- The point may be at this position at most. -/
  lastPoint : Int
  exponentDigits : Nat

/-- Numbers are written positionally from 0.0001 on and below 10^16, and an
exponent has two digits or more. -/
def usual : Notation := ⟨-4, 16, 2⟩

/-- An exponent with its sign. -/
def exponentText (width : Nat) (e : Int) : List Char :=
  let digits := Nat.toDigits 10 e.natAbs
  (if e < 0 then '-' else '+') :: List.replicate (width - digits.length) '0' ++ digits

/-- Digits with the decimal point at a position. -/
def positional (digits : List Char) (point : Int) : List Char :=
  if point ≤ 0 then '0' :: '.' :: List.replicate (-point).toNat '0' ++ digits
  else
    let before := point.toNat
    if digits.length ≤ before then
      digits ++ List.replicate (before - digits.length) '0' ++ ['.', '0']
    else digits.take before ++ '.' :: digits.drop before

/-- Digits with an exponent. -/
def scientific (width : Nat) (digits : List Char) (point : Int) : List Char :=
  let mantissa :=
    match digits with
    | first :: second :: more => first :: '.' :: second :: more
    | _ => digits
  mantissa ++ 'e' :: exponentText width (point - 1)

/-- Digits in a notation. -/
def Notation.render (n : Notation) (digits : List Char) (point : Int) : List Char :=
  if point ≤ n.afterPoint || n.lastPoint < point then scientific n.exponentDigits digits point
  else positional digits point

end TreeSift.Decimal

namespace TreeSift.Binary64

/-- A number in the fewest digits that read back. -/
def shown : Binary64 → String
  | nan => "nan"
  | infinite negative => if negative then "-inf" else "inf"
  | finite negative whole power =>
    let sign := if negative then "-" else ""
    if whole = 0 then sign ++ "0.0"
    else
      let (digits, point) := Decimal.shortest whole power
      sign ++ String.ofList (Decimal.usual.render digits point)

end TreeSift.Binary64
