/-
  TreeSift.Proofs.Text.Runs — what a table of runs moves, and where to.

  A table in which every run begins after the one before it moves a code point by
  the run that holds it, and leaves all others.

  Tables are too long to compare code point by code point. A set of code points is
  written as one number, with a bit for each of them; two sets without a common
  member are two numbers without a common bit.

    §1 Members  `Run.codes`, `Run.images`, `moved`, `reached`
    §2 Tables   `Ascending`, `mapCode_of_covers`, `isValidChar_mapCode`
    §3 Masks    `mask`, `disjoint_of_mask`
-/
import Mathlib.Data.List.Basic
import Mathlib.Data.List.Chain
import TreeSift.Text.Ranges

namespace TreeSift.Text

deriving instance DecidableEq for Run

/-! ## §1 Members -/

namespace Run

/-- How many code points a run moves. -/
def count (r : Run) : Nat := (r.last - r.first) / r.step + 1

/-- The code points that a run moves. -/
def codes (r : Run) : List Nat := List.range' r.first r.count r.step

/-- The code points that a run moves them to. -/
def images (r : Run) : List Nat := List.range' r.image r.count r.step

/-- The run that moves the images back. -/
def inverse (r : Run) : Run := ⟨r.image, r.image + (r.last - r.first), r.step, r.first⟩

theorem covers_iff {r : Run} {n : Nat} :
    r.covers n = true ↔ r.first ≤ n ∧ n ≤ r.last ∧ r.step ∣ n - r.first := by
  simp only [covers, Bool.and_eq_true, decide_eq_true_eq, beq_iff_eq, Nat.dvd_iff_mod_eq_zero,
    and_assoc]

/-- What a run covers is one of its code points. -/
theorem exists_index {r : Run} {n : Nat} (covered : r.covers n = true) :
    ∃ i < r.count, n = r.first + r.step * i := by
  obtain ⟨low, high, steps⟩ := covers_iff.1 covered
  refine ⟨(n - r.first) / r.step, ?_, ?_⟩
  · exact Nat.lt_succ_of_le (Nat.div_le_div_right (Nat.sub_le_sub_right high _))
  · rw [Nat.mul_div_cancel' steps]
    omega

theorem mem_codes {r : Run} {n : Nat} (covered : r.covers n = true) : n ∈ r.codes :=
  List.mem_range'.2 (exists_index covered)

theorem mem_images {r : Run} {n : Nat} (covered : r.covers n = true) :
    r.image + (n - r.first) ∈ r.images := by
  obtain ⟨i, few, rfl⟩ := exists_index covered
  exact List.mem_range'.2 ⟨i, few, by omega⟩

theorem inverse_covers {r : Run} {n : Nat} (covered : r.covers n = true) :
    r.inverse.covers (r.image + (n - r.first)) = true := by
  obtain ⟨low, high, steps⟩ := covers_iff.1 covered
  have within := Nat.add_le_add_left (Nat.sub_le_sub_right high r.first) r.image
  refine covers_iff.2 ⟨Nat.le_add_right _ _, within, ?_⟩
  change r.step ∣ r.image + (n - r.first) - r.image
  rwa [Nat.add_sub_cancel_left]

theorem inverse_image {r : Run} {n : Nat} (covered : r.covers n = true) :
    r.inverse.image + (r.image + (n - r.first) - r.inverse.first) = n := by
  have low := (covers_iff.1 covered).1
  change r.first + (r.image + (n - r.first) - r.image) = n
  omega

end Run

/-- The code points that a table moves. -/
def moved (t : List Run) : List Nat := t.flatMap Run.codes

/-- The code points that a table moves some to. -/
def reached (t : List Run) : List Nat := t.flatMap Run.images

theorem mem_moved {t : List Run} {r : Run} {n : Nat} (inside : r ∈ t)
    (covered : r.covers n = true) : n ∈ moved t :=
  List.mem_flatMap.2 ⟨r, inside, Run.mem_codes covered⟩

theorem mem_reached {t : List Run} {r : Run} {n : Nat} (inside : r ∈ t)
    (covered : r.covers n = true) : r.image + (n - r.first) ∈ reached t :=
  List.mem_flatMap.2 ⟨r, inside, Run.mem_images covered⟩

/-! ## §2 Tables -/

/-- A table leaves a code point alone, or moves it by one of its runs. -/
theorem mapCode_eq (t : List Run) (n : Nat) :
    mapCode t n = n ∨ ∃ r ∈ t, r.covers n = true ∧ mapCode t n = r.image + (n - r.first) := by
  induction t with
  | nil => exact .inl rfl
  | cons r rest ih =>
    rw [mapCode, Run.image?]
    split_ifs with before covered
    · exact .inl rfl
    · exact .inr ⟨r, List.mem_cons_self, covered, rfl⟩
    · refine ih.imp_right ?_
      rintro ⟨q, inside, covered, image⟩
      exact ⟨q, List.mem_cons_of_mem _ inside, covered, image⟩

theorem mapCode_of_not_mem {t : List Run} {n : Nat} (unmoved : n ∉ moved t) : mapCode t n = n := by
  rcases mapCode_eq t n with same | ⟨r, inside, covered, -⟩
  · exact same
  · exact absurd (mem_moved inside covered) unmoved

/-- Whether a run is not empty and ends before another one begins. -/
def Run.Before (q r : Run) : Prop := q.first ≤ q.last ∧ q.last < r.first

instance : DecidableRel Run.Before := fun q r =>
  inferInstanceAs (Decidable (q.first ≤ q.last ∧ q.last < r.first))

instance : Trans Run.Before Run.Before Run.Before where
  trans qr rs := ⟨qr.1, Nat.lt_trans qr.2 (Nat.lt_of_le_of_lt rs.1 rs.2)⟩

/-- Whether each run of a table ends before the next one begins. -/
abbrev Ascending (t : List Run) : Prop := t.IsChain Run.Before

/-- In an ascending table a code point is moved by the run that covers it. -/
theorem mapCode_of_covers {t : List Run} (ascending : Ascending t) {r : Run} (inside : r ∈ t)
    {n : Nat} (covered : r.covers n = true) : mapCode t n = r.image + (n - r.first) := by
  have low := (Run.covers_iff.1 covered).1
  have pairwise := List.isChain_iff_pairwise.1 ascending
  clear ascending
  induction t with
  | nil => exact absurd inside List.not_mem_nil
  | cons q rest ih =>
    rw [List.pairwise_cons] at pairwise
    rw [mapCode, Run.image?]
    rcases List.mem_cons.1 inside with rfl | later
    · rw [if_neg (Nat.not_lt.2 low), if_pos covered]
    · obtain ⟨filled, before⟩ := pairwise.1 r later
      have uncovered : ¬q.covers n = true := fun covers =>
        absurd (Run.covers_iff.1 covers).2.1 (by omega)
      rw [if_neg (by omega), if_neg uncovered]
      exact ih later pairwise.2

/-- Whether a run moves nothing to what is no character. -/
def Run.Valid (r : Run) : Prop :=
  r.image + (r.last - r.first) < 0xD800 ∨
    (0xDFFF < r.image ∧ r.image + (r.last - r.first) < 0x110000)

instance : DecidablePred Run.Valid := fun r =>
  inferInstanceAs (Decidable (_ < 0xD800 ∨ (0xDFFF < r.image ∧ _ < 0x110000)))

theorem isValidChar_mapCode {t : List Run} (valid : ∀ r ∈ t, r.Valid) {n : Nat}
    (char : n.isValidChar) : (mapCode t n).isValidChar := by
  rcases mapCode_eq t n with same | ⟨r, inside, covered, image⟩
  · rwa [same]
  · have high := (Run.covers_iff.1 covered).2.1
    rw [image]
    rcases valid r inside with below | ⟨above, most⟩
    · exact .inl (by omega)
    · exact .inr ⟨by omega, by omega⟩

/-! ## §3 Masks -/

/-- The number that has a bit for each of some numbers. -/
def mask : List Nat → Nat
  | [] => 0
  | n :: rest => 1 <<< n ||| mask rest

theorem testBit_mask {n : Nat} {s : List Nat} : (mask s).testBit n = true ↔ n ∈ s := by
  induction s with
  | nil => simp [mask]
  | cons m rest ih =>
    rw [mask, Nat.testBit_or, Nat.one_shiftLeft, Nat.testBit_two_pow, Bool.or_eq_true, ih,
      decide_eq_true_eq, List.mem_cons, eq_comm]

/-- Sets whose masks have no bit in common have no member in common. -/
theorem disjoint_of_mask {s t : List Nat} (apart : mask s &&& mask t = 0) : s.Disjoint t := by
  intro n left right
  have both : (mask s &&& mask t).testBit n = true := by
    rw [Nat.testBit_and, testBit_mask.2 left, testBit_mask.2 right, Bool.and_self]
  rw [apart, Nat.zero_testBit] at both
  exact Bool.false_ne_true both

end TreeSift.Text
