/-
  TreeSift.Glob — patterns for one name.

  In a glob a star stands for any run of characters, a question mark for any
  one character, and every other character for a character alike to it. A glob
  describes whole names. Matching keeps the ends of the name that are still to
  be matched; after a star these are all the ends of the longest one.

    §1 Pieces    `Glob.ofText`
    §2 Matching  `Glob.advance`, `Glob.covers`
    §3 Markers   `isMultiLevel`
-/
import TreeSift.Text.Likeness

namespace TreeSift

/-! ## §1 Pieces -/

/-- What one character of a glob stands for. -/
inductive GlobPiece where
  /-- Any run of characters, also an empty one. -/
  | run
  /-- Any one character. -/
  | any
  /-- One character alike to this one. -/
  | letter (c : Char)
  deriving DecidableEq, Repr

/-- A pattern for one name. -/
abbrev Glob := List GlobPiece

namespace Glob

/-- What a character of a pattern stands for. -/
def piece (c : Char) : GlobPiece :=
  if c = '*' then .run else if c = '?' then .any else .letter c

/-- The glob that a text writes. -/
def ofText (s : String) : Glob := s.toList.map piece

/-! ## §2 Matching -/

/-- All ends of a text, the text itself first. -/
def ends : List Char → List (List Char)
  | [] => [[]]
  | c :: rest => (c :: rest) :: ends rest

/-- The ends of a name that are left when a piece has taken its share, given
those that were left before it, the longest one first. -/
def advance (left : List (List Char)) : GlobPiece → List (List Char)
  | .run =>
    match left with
    | [] => []
    | longest :: _ => ends longest
  | .any => left.filterMap List.tail?
  | .letter c => left.filterMap fun
    | [] => none
    | d :: rest => if Text.alike c d then some rest else none

/-- The ends of a text are its suffixes. -/
theorem mem_ends {s e : List Char} : e ∈ ends s ↔ e <:+ s := by
  induction s with
  | nil => simp [ends]
  | cons c rest ih => rw [ends, List.mem_cons, ih, List.suffix_cons_iff]

theorem mem_advance_any {left : List (List Char)} {e : List Char} :
    e ∈ advance left .any ↔ ∃ c, c :: e ∈ left := by
  simp only [advance, List.mem_filterMap]
  constructor
  · rintro ⟨s, hs, h⟩
    cases s with
    | nil => simp at h
    | cons c rest =>
      simp only [List.tail?_cons, Option.some.injEq] at h
      exact ⟨c, h ▸ hs⟩
  · rintro ⟨c, hc⟩
    exact ⟨c :: e, hc, rfl⟩

theorem mem_advance_letter {left : List (List Char)} {c : Char} {e : List Char} :
    e ∈ advance left (.letter c) ↔ ∃ d, d :: e ∈ left ∧ Text.alike c d = true := by
  simp only [advance, List.mem_filterMap]
  constructor
  · rintro ⟨s, hs, h⟩
    cases s with
    | nil => simp at h
    | cons d rest =>
      simp only [Option.ite_none_right_eq_some, Option.some.injEq] at h
      exact ⟨d, h.2 ▸ hs, h.1⟩
  · rintro ⟨d, hd, h⟩
    exact ⟨d :: e, hd, by simp [h]⟩

/-- Whether a glob describes a name given as characters. -/
def coversChars (g : Glob) (name : List Char) : Bool :=
  (g.foldl advance [name]).any List.isEmpty

/-- Whether a glob describes a name. -/
def covers (g : Glob) (name : String) : Bool := g.coversChars name.toList

end Glob

/-! ## §3 Markers -/

/-- Whether a segment of a wildcard pattern is a multi-level marker: two stars
or more and nothing else. -/
def isMultiLevel (segment : String) : Bool :=
  2 ≤ segment.length && segment.toList.all (· = '*')

end TreeSift
