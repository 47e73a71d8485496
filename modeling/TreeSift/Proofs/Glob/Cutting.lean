/-
  TreeSift.Proofs.Glob.Cutting — names cut into parts.

  A pattern for one name describes a name when the name can be cut into parts, one
  for each character of the pattern and in their order, such that every character
  takes its part: `covers_iff_cuts`. The matcher knows no cuts: it keeps the ends of
  the name that are left, and after a star only those of the longest one. That is
  enough because all others are ends of the longest one too.

    §1 Cuts      `Takes`, `Cuts`
    §2 Matching  `Nested`, `mem_advance`, `covers_iff_cuts`
    §3 Stars and letters  `cuts_stars`, `cuts_letters`
-/
import Mathlib.Data.List.Basic
import Mathlib.Data.List.Forall2
import TreeSift.Glob

namespace TreeSift

namespace Glob

/-! ## §1 Cuts -/

/-- The parts of a name that a character of a pattern may take. -/
inductive Takes : Char → List Char → Prop where
  /-- A star takes any part, also an empty one. -/
  | star (part : List Char) : Takes '*' part
  /-- A question mark takes any one character. -/
  | mark (d : Char) : Takes '?' [d]
  /-- Every other character takes one that differs from it at most in case. -/
  | letter {c d : Char} (star : c ≠ '*') (mark : c ≠ '?') (alike : Text.alike c d = true) :
    Takes c [d]

/-- Whether a name can be cut into parts that the characters of a pattern take in
turn. -/
def Cuts (pattern name : List Char) : Prop :=
  ∃ parts : List (List Char), parts.flatten = name ∧ List.Forall₂ Takes pattern parts

theorem cuts_nil {name : List Char} : Cuts [] name ↔ name = [] := by
  constructor
  · rintro ⟨parts, rfl, taken⟩
    cases taken
    rfl
  · rintro rfl
    exact ⟨[], rfl, .nil⟩

theorem cuts_cons {c : Char} {pattern name : List Char} :
    Cuts (c :: pattern) name ↔
      ∃ part rest, part ++ rest = name ∧ Takes c part ∧ Cuts pattern rest := by
  constructor
  · rintro ⟨parts, rfl, taken⟩
    cases taken with
    | @cons _ part _ parts first others =>
      exact ⟨part, parts.flatten, List.flatten_cons.symm, first, parts, rfl, others⟩
  · rintro ⟨part, rest, rfl, first, parts, rfl, others⟩
    exact ⟨part :: parts, List.flatten_cons, .cons first others⟩

theorem cuts_append {before after name : List Char} :
    Cuts (before ++ after) name ↔ ∃ front back, front ++ back = name ∧ Cuts before front ∧
      Cuts after back := by
  induction before generalizing name with
  | nil =>
    constructor
    · exact fun cuts => ⟨[], name, rfl, cuts_nil.2 rfl, cuts⟩
    · rintro ⟨front, back, rfl, empty, cuts⟩
      rwa [cuts_nil.1 empty]
  | cons c before ih =>
    rw [List.cons_append, cuts_cons]
    constructor
    · rintro ⟨part, rest, rfl, first, cuts⟩
      obtain ⟨front, back, rfl, inner, cuts⟩ := ih.1 cuts
      exact ⟨part ++ front, back, List.append_assoc ..,
        cuts_cons.2 ⟨part, front, rfl, first, inner⟩, cuts⟩
    · rintro ⟨front, back, rfl, cut, cuts⟩
      obtain ⟨part, rest, rfl, first, inner⟩ := cuts_cons.1 cut
      exact ⟨part, rest ++ back, (List.append_assoc ..).symm, first,
        ih.2 ⟨rest, back, rfl, inner, cuts⟩⟩

theorem takes_star {part : List Char} : Takes '*' part := .star part

/-- All but a star take exactly one character. -/
theorem Takes.eq_singleton {c : Char} {part : List Char} (taken : Takes c part) (star : c ≠ '*') :
    ∃ d, part = [d] := by
  cases taken with
  | star => exact absurd rfl star
  | mark d | @letter _ d => exact ⟨d, rfl⟩

theorem cuts_singleton {c : Char} {name : List Char} : Cuts [c] name ↔ Takes c name := by
  rw [cuts_cons]
  constructor
  · rintro ⟨part, rest, rfl, taken, cuts⟩
    rwa [cuts_nil.1 cuts, List.append_nil]
  · exact fun taken => ⟨name, [], List.append_nil _, taken, cuts_nil.2 rfl⟩

/-! ## §2 Matching -/

/-- Whether of several ends of a name each is an end of those before it. -/
def Nested (left : List (List Char)) : Prop :=
  left.Pairwise fun longer shorter => shorter <:+ longer

theorem nested_ends (s : List Char) : Nested (ends s) := by
  induction s with
  | nil => exact List.pairwise_singleton _ _
  | cons c rest ih =>
    refine List.pairwise_cons.2 ⟨fun e inside => ?_, ih⟩
    exact (mem_ends.1 inside).trans (List.suffix_cons c rest)

/-- Taking a character from nested ends leaves nested ends. -/
theorem nested_filterMap {left : List (List Char)} {f : List Char → Option (List Char)}
    (nested : Nested left) (shorter : ∀ s e, f s = some e → ∃ d, s = d :: e) :
    Nested (left.filterMap f) := by
  refine List.Pairwise.filterMap f (fun longer short suffix a ha b hb => ?_) nested
  obtain ⟨d, rfl⟩ := shorter longer a ha
  obtain ⟨e, rfl⟩ := shorter short b hb
  rcases List.suffix_cons_iff.1 suffix with same | inner
  · exact (List.cons.inj same).2 ▸ List.suffix_rfl
  · exact (List.suffix_cons e b).trans inner

theorem nested_advance {left : List (List Char)} (nested : Nested left) (p : GlobPiece) :
    Nested (advance left p) := by
  cases p with
  | run =>
    cases left with
    | nil => exact .nil
    | cons longest others => exact nested_ends longest
  | any =>
    refine nested_filterMap nested fun s e tail => ?_
    cases s with
    | nil => exact absurd tail (by simp)
    | cons d rest => exact ⟨d, by rw [Option.some.inj tail]⟩
  | letter c =>
    refine nested_filterMap nested fun s e rest => ?_
    cases s with
    | nil => exact absurd rest (by simp)
    | cons d after =>
      simp only [Option.ite_none_right_eq_some, Option.some.injEq] at rest
      exact ⟨d, by rw [rest.2]⟩

/-- One piece takes from some end that was left what its character takes. -/
theorem mem_advance {left : List (List Char)} (nested : Nested left) {c : Char} {e : List Char} :
    e ∈ advance left (piece c) ↔ ∃ part, part ++ e ∈ left ∧ Takes c part := by
  by_cases star : c = '*'
  · subst star
    change e ∈ advance left .run ↔ _
    cases left with
    | nil =>
      rw [advance]
      constructor
      · exact fun inside => absurd inside List.not_mem_nil
      · rintro ⟨part, inside, -⟩
        exact absurd inside List.not_mem_nil
    | cons longest others =>
      rw [advance, mem_ends]
      constructor
      · rintro ⟨part, rfl⟩
        exact ⟨part, List.mem_cons_self, takes_star⟩
      · rintro ⟨part, inside, -⟩
        have suffix : part ++ e <:+ longest := by
          rcases List.mem_cons.1 inside with same | other
          · exact same ▸ List.suffix_rfl
          · exact (List.pairwise_cons.1 nested).1 _ other
        exact (List.suffix_append part e).trans suffix
  · by_cases mark : c = '?'
    · subst mark
      change e ∈ advance left .any ↔ _
      rw [mem_advance_any]
      constructor
      · rintro ⟨d, inside⟩
        exact ⟨[d], inside, .mark d⟩
      · rintro ⟨part, inside, taken⟩
        obtain ⟨d, rfl⟩ := taken.eq_singleton star
        exact ⟨d, inside⟩
    · have letter : piece c = .letter c := by rw [piece, if_neg star, if_neg mark]
      rw [letter, mem_advance_letter]
      constructor
      · rintro ⟨d, inside, alike⟩
        exact ⟨[d], inside, .letter star mark alike⟩
      · rintro ⟨part, inside, taken⟩
        cases taken with
        | star => exact absurd rfl star
        | mark => exact absurd rfl mark
        | @letter _ d _ _ alike => exact ⟨d, inside, alike⟩

/-- The whole of an end can be taken when the pattern cuts one of those left. -/
theorem nil_mem_foldl_advance (pattern : List Char) {left : List (List Char)}
    (nested : Nested left) :
    [] ∈ (pattern.map piece).foldl advance left ↔ ∃ e ∈ left, Cuts pattern e := by
  induction pattern generalizing left with
  | nil =>
    simp only [List.map_nil, List.foldl_nil, cuts_nil, exists_eq_right]
  | cons c pattern ih =>
    rw [List.map_cons, List.foldl_cons, ih (nested_advance nested _)]
    constructor
    · rintro ⟨e, inside, cuts⟩
      obtain ⟨part, before, taken⟩ := (mem_advance nested).1 inside
      exact ⟨part ++ e, before, cuts_cons.2 ⟨part, e, rfl, taken, cuts⟩⟩
    · rintro ⟨s, inside, cuts⟩
      obtain ⟨part, e, rfl, taken, cuts⟩ := cuts_cons.1 cuts
      exact ⟨e, (mem_advance nested).2 ⟨part, inside, taken⟩, cuts⟩

/-- A glob covers the names that its text cuts. -/
theorem covers_iff_cuts {segment name : String} :
    (ofText segment).covers name = true ↔ Cuts segment.toList name.toList := by
  have nested : Nested [name.toList] := List.pairwise_singleton _ _
  have matched := nil_mem_foldl_advance segment.toList nested
  rw [covers, coversChars, List.any_eq_true, ofText]
  simpa only [List.isEmpty_iff, exists_eq_right, List.mem_singleton, exists_eq_left] using matched

/-! ## §3 Stars and letters -/

/-- A run of stars takes what one star does. -/
theorem cuts_stars (n : Nat) (name : List Char) : Cuts (List.replicate (n + 1) '*') name := by
  induction n with
  | zero => exact cuts_singleton.2 takes_star
  | succ n ih => exact cuts_cons.2 ⟨[], name, rfl, takes_star, ih⟩

theorem cuts_star_star {pattern name : List Char} :
    Cuts ('*' :: '*' :: pattern) name ↔ Cuts ('*' :: pattern) name := by
  rw [cuts_cons]
  constructor
  · rintro ⟨part, rest, rfl, -, cuts⟩
    obtain ⟨part', rest, rfl, -, cuts⟩ := cuts_cons.1 cuts
    exact cuts_cons.2 ⟨part ++ part', rest, List.append_assoc .., takes_star, cuts⟩
  · exact fun cuts => ⟨[], name, rfl, takes_star, cuts⟩

/-- Where nothing but letters stands, a name is cut into its characters. -/
theorem cuts_letters {pattern name : List Char} (star : '*' ∉ pattern) (mark : '?' ∉ pattern) :
    Cuts pattern name ↔ List.Forall₂ (fun c d => Text.alike c d = true) pattern name := by
  induction pattern generalizing name with
  | nil => rw [cuts_nil, List.forall₂_nil_left_iff]
  | cons c pattern ih =>
    obtain ⟨cstar, star⟩ := List.ne_and_not_mem_of_not_mem_cons star
    obtain ⟨cmark, mark⟩ := List.ne_and_not_mem_of_not_mem_cons mark
    rw [cuts_cons, List.forall₂_cons_left_iff]
    constructor
    · rintro ⟨part, rest, rfl, taken, cuts⟩
      cases taken with
      | star => exact absurd rfl cstar
      | mark => exact absurd rfl cmark
      | @letter _ d _ _ alike => exact ⟨d, rest, alike, (ih star mark).1 cuts, rfl⟩
    · rintro ⟨d, rest, alike, others, rfl⟩
      exact ⟨[d], rest, rfl, .letter cstar.symm cmark.symm alike, (ih star mark).2 others⟩

end Glob

end TreeSift
