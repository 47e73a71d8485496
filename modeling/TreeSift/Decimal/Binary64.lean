/-
  TreeSift.Decimal.Binary64 — numbers with 53 binary digits.

  A finite number is a whole number below 2^53 times a power of two, the power
  being as small as it may be: 2^52 or more times any power, or less times the
  least power, 2^-1074. A fraction goes to the nearest such number, and of two
  equally near ones to the one with an even whole number. Beyond the greatest
  power, 2^971, numbers are infinite.

    §1 Numbers    `Binary64`
    §2 Rounding   `Binary64.ofRatio`
    §3 Arithmetic `Binary64.ofInt`, `add`, `mul`
-/

namespace TreeSift

/-! ## §1 Numbers -/

/-- A number with 53 binary digits. -/
inductive Binary64 where
  | nan
  | infinite (negative : Bool)
  /-- A whole number times a power of two. -/
  | finite (negative : Bool) (whole : Nat) (power : Int)
  deriving DecidableEq, Repr

namespace Binary64

/-- The least power of two. -/
def leastPower : Int := -1074

/-- The greatest power of two. -/
def greatestPower : Int := 971

/-- Nothing, with a sign. -/
def zero (negative : Bool) : Binary64 := finite negative 0 leastPower

/-- Whether a number equals nothing. -/
def isZero : Binary64 → Bool
  | finite _ whole _ => whole == 0
  | _ => false

/-! ## §2 Rounding -/

/-- A fraction divided by a power of two. -/
def scaled (num den : Nat) (power : Int) : Nat × Nat :=
  if power < 0 then (num * Nat.pow 2 (-power).toNat, den) else (num, den * Nat.pow 2 power.toNat)

/-- A fraction to the nearest whole number, of two to the even one. -/
def roundEven (num den : Nat) : Nat :=
  let quotient := num / den
  let double := 2 * (num % den)
  if double < den then quotient
  else if den < double then quotient + 1
  else if quotient % 2 = 0 then quotient
  else quotient + 1

/-- The power of two that goes with a fraction greater than nothing. -/
def powerFor (num den : Nat) : Int :=
  let guess : Int := (num.log2 : Int) - (den.log2 : Int) - 52
  let (n, d) := scaled num den guess
  let power := if n / d < Nat.pow 2 52 then guess - 1 else guess
  max power leastPower

/-- The number nearest to a fraction. -/
def ofRatio (negative : Bool) (num den : Nat) : Binary64 :=
  if num = 0 then zero negative
  else
    let power := powerFor num den
    let (n, d) := scaled num den power
    let whole := roundEven n d
    let (whole, power) := if whole = Nat.pow 2 53 then (Nat.pow 2 52, power + 1) else (whole, power)
    if greatestPower < power then infinite negative else finite negative whole power

/-! ## §3 Arithmetic -/

/-- The number nearest to a whole number. -/
def ofInt (n : Int) : Binary64 := ofRatio (n < 0) n.natAbs 1

/-- The whole number that a number equals. -/
def toInt? : Binary64 → Option Int
  | finite negative whole power =>
    let magnitude :=
      if power < 0 then
        let d := Nat.pow 2 (-power).toNat
        if whole % d = 0 then some (whole / d) else none
      else some (whole * Nat.pow 2 power.toNat)
    magnitude.map fun (m : Nat) => if negative then -(m : Int) else (m : Int)
  | _ => none

/-- A finite number as a signed whole number over 2^1074. -/
def overLeast (negative : Bool) (whole : Nat) (power : Int) : Int :=
  let m : Int := whole * Nat.pow 2 (power - leastPower).toNat
  if negative then -m else m

/-- The sum of two numbers. -/
def add : Binary64 → Binary64 → Binary64
  | finite s m p, finite t n q =>
    let sum := overLeast s m p + overLeast t n q
    if sum = 0 then zero (s && t) else ofRatio (sum < 0) sum.natAbs (Nat.pow 2 1074)
  | infinite s, infinite t => if s = t then infinite s else nan
  | nan, _ => nan
  | _, nan => nan
  | infinite s, _ => infinite s
  | _, infinite t => infinite t

/-- The product of two numbers. -/
def mul : Binary64 → Binary64 → Binary64
  | finite s m p, finite t n q =>
    let (num, den) :=
      if p + q < 0 then (m * n, Nat.pow 2 (-(p + q)).toNat)
      else (m * n * Nat.pow 2 (p + q).toNat, 1)
    ofRatio (s != t) num den
  | nan, _ => nan
  | _, nan => nan
  | infinite s, finite t n _ => if n = 0 then nan else infinite (s != t)
  | finite s m _, infinite t => if m = 0 then nan else infinite (s != t)
  | infinite s, infinite t => infinite (s != t)

/-- A number with the other sign. -/
def neg : Binary64 → Binary64
  | nan => nan
  | infinite s => infinite !s
  | finite s m p => finite (!s) m p

end Binary64

end TreeSift
