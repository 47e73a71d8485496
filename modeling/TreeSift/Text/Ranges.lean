/-
  TreeSift.Text.Ranges — character data as ascending ranges of code points.

  A property of characters is a list of closed ranges; a one-to-one mapping is
  a list of runs, each of which moves every code point of a range (or every
  second one) by the same distance. Both lists ascend, so a search may stop at
  the first entry that starts beyond the code point it looks for.

    §1 Ranges  `Ranges.find?`, `Ranges.contains`
    §2 Runs    `Run.image?`, `Run.source?`, `mapCode`, `mapChar`
-/

namespace TreeSift.Text

/-! ## §1 Ranges -/

/-- Ascending closed ranges of code points. -/
abbrev Ranges := List (Nat × Nat)

namespace Ranges

/-- The range that holds a code point. -/
def find? : Ranges → Nat → Option (Nat × Nat)
  | [], _ => none
  | (first, last) :: rest, n =>
    if n < first then none
    else if n ≤ last then some (first, last)
    else find? rest n

/-- Whether some range holds a code point. -/
def contains (t : Ranges) (n : Nat) : Bool := (t.find? n).isSome

end Ranges

/-! ## §2 Runs -/

/-- A stretch of a mapping: the code points from `first` to `last`, `step`
apart, go to those from `image` on, the same distance apart. -/
structure Run where
  first : Nat
  last : Nat
  step : Nat
  image : Nat

namespace Run

/-- Whether a run moves a code point. -/
def covers (r : Run) (n : Nat) : Bool :=
  r.first ≤ n && n ≤ r.last && (n - r.first) % r.step == 0

/-- Where a run moves a code point to. -/
def image? (r : Run) (n : Nat) : Option Nat :=
  if r.covers n then some (r.image + (n - r.first)) else none

/-- The code point that a run moves to a given one. -/
def source? (r : Run) (n : Nat) : Option Nat :=
  if r.image ≤ n && r.covers (r.first + (n - r.image)) then
    some (r.first + (n - r.image))
  else none

end Run

/-- The image of a code point under a table of runs; what no run moves stays. -/
def mapCode : List Run → Nat → Nat
  | [], n => n
  | r :: rest, n =>
    if n < r.first then n
    else
      match r.image? n with
      | some m => m
      | none => mapCode rest n

/-- The image of a character under a table of runs. -/
def mapChar (t : List Run) (c : Char) : Char := Char.ofNat (mapCode t c.toNat)

/-- The code points that a table moves to a given one. -/
def sources (t : List Run) (n : Nat) : List Nat := t.filterMap (·.source? n)

end TreeSift.Text
