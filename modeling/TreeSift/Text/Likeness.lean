/-
  TreeSift.Text.Likeness — when a pattern takes two characters for the same.

  Patterns ignore case one character at a time: two characters are alike when
  their simple lower-case forms are equal or stand in one of a few groups of
  lower-case letters that share an upper-case form (s and ſ, σ and ς, …). No
  character is like a sequence of several.
-/
import TreeSift.Text.Lower

namespace TreeSift.Text

/-- Lower-case letters that share an upper-case form with another one, each
with the letter that stands for its group. -/
def likenessPairs : List (Nat × Nat) := [
  (0x131, 0x69), (0x17F, 0x73), (0x3BC, 0xB5), (0x345, 0x3B9), (0x1FBE, 0x3B9),
  (0x1FD3, 0x390), (0x1FE3, 0x3B0), (0x3D0, 0x3B2), (0x3F5, 0x3B5), (0x3D1, 0x3B8),
  (0x3F0, 0x3BA), (0x3D6, 0x3C0), (0x3F1, 0x3C1), (0x3C2, 0x3C3), (0x3D5, 0x3C6),
  (0x1C80, 0x432), (0x1C81, 0x434), (0x1C82, 0x43E), (0x1C83, 0x441), (0x1C84, 0x442),
  (0x1C85, 0x442), (0x1C86, 0x44A), (0x1C87, 0x463), (0x1C88, 0xA64B), (0x1E9B, 0x1E61),
  (0xFB06, 0xFB05)]

/-- The simple lower-case form of a code point. -/
def lowerCode (n : Nat) : Nat := mapCode lowerRuns n

/-- The code point that stands for all those alike to a given one. -/
def likenessCode (n : Nat) : Nat :=
  let low := lowerCode n
  if low < 0x80 then low else (likenessPairs.lookup low).getD low

/-- The letter that stands for all those alike to a given one. -/
def likeness (c : Char) : Char := Char.ofNat (likenessCode c.toNat)

/-- Whether two characters differ at most in case. -/
def alike (c d : Char) : Bool := likeness c == likeness d

/-- The lower-case code points of the group that a representative stands for. -/
def likenessGroup (n : Nat) : List Nat :=
  n :: likenessPairs.filterMap fun p => if p.2 == n then some p.1 else none

theorem alike_refl (c : Char) : alike c c = true := by simp [alike]

/-- Every code point alike to a given one, the code point itself among them. -/
def alikes (n : Nat) : List Nat :=
  let lows := likenessGroup (likenessCode n)
  lows ++ lows.flatMap (sources lowerRuns)

end TreeSift.Text
