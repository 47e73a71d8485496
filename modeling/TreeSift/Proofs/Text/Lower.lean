/-
  TreeSift.Proofs.Text.Lower — what a text in lower case comes from.

  A character of a table comes from itself or from one of its sources, which the
  table lists (`eq_or_mem_sources`). In the lower case of a text a letter stands for
  one character, unless it is i or a sigma: İ becomes two characters, and a capital
  sigma either form of the small one. So the lower case of a text is read from its
  start, character by character (`lowerAfter_eq_cons`).

    §1 Characters  `eq_or_mem_sources`, `toNat_of_lowerChar`
    §2 Texts       `lowerAfter_eq_nil`, `lowerAfter_eq_cons`
-/
import TreeSift.Proofs.Text.Runs
import TreeSift.Text.Lower

namespace TreeSift.Text

/-! ## §1 Characters -/

theorem source?_image {r : Run} {n : Nat} (covered : r.covers n = true) :
    r.source? (r.image + (n - r.first)) = some n := by
  have low := (Run.covers_iff.1 covered).1
  have distance : r.image + (n - r.first) - r.image = n - r.first := by omega
  have back : r.first + (n - r.first) = n := by omega
  rw [Run.source?, distance, back, covered, if_pos (by simp)]

/-- What a table moves to a code point is one of its sources. -/
theorem eq_or_mem_sources {t : List Run} {n m : Nat} (image : mapCode t n = m) :
    n = m ∨ n ∈ sources t m := by
  rcases mapCode_eq t n with same | ⟨r, inside, covered, moves⟩
  · exact .inl (same.symm.trans image)
  · refine .inr (List.mem_filterMap.2 ⟨r, inside, ?_⟩)
    rw [← image, moves]
    exact source?_image covered

/-- A character of which another one is the lower-case form. -/
theorem toNat_of_lowerChar {c d : Char} (lower : lowerChar c = d) :
    c.toNat = d.toNat ∨ c.toNat ∈ sources lowerRuns d.toNat := by
  have runs : ∀ r ∈ lowerRuns, r.Valid := by decide +kernel
  have valid : (mapCode lowerRuns c.toNat).isValidChar := isValidChar_mapCode runs c.valid
  have code : d.toNat = mapCode lowerRuns c.toNat := by
    rw [← lower, lowerChar, mapChar, Char.ofNat, dif_pos valid]
    rfl
  exact eq_or_mem_sources code.symm

/-! ## §2 Texts -/

theorem lowerAfter_eq_nil {before s : List Char} (lower : lowerAfter before s = []) : s = [] := by
  cases s with
  | nil => rfl
  | cons c rest =>
    rw [lowerAfter, lowerBetween] at lower
    split_ifs at lower <;> exact absurd lower (List.cons_ne_nil _ _)

/-- The first character of a text in lower case, if it is neither i nor a sigma, is the
lower-case form of the first character of the text. -/
theorem lowerAfter_eq_cons {before s more : List Char} {d : Char} (plain : d ∉ ['i', 'σ', 'ς'])
    (lower : lowerAfter before s = d :: more) :
    ∃ c rest, s = c :: rest ∧ lowerChar c = d ∧ lowerAfter (c :: before) rest = more := by
  cases s with
  | nil => exact absurd lower (by simp [lowerAfter])
  | cons c rest =>
    rw [lowerAfter, lowerBetween] at lower
    split_ifs at lower with dotted sigma final
    · obtain ⟨rfl, -⟩ := List.cons.inj lower
      exact absurd plain (by decide)
    · obtain ⟨rfl, -⟩ := List.cons.inj lower
      exact absurd plain (by decide)
    · obtain ⟨rfl, -⟩ := List.cons.inj lower
      exact absurd plain (by decide)
    · obtain ⟨first, others⟩ := List.cons.inj lower
      exact ⟨c, rest, rfl, first, others⟩

end TreeSift.Text
