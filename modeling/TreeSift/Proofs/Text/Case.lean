/-
  TreeSift.Proofs.Text.Case — two notions of letter case.

  Patterns compare characters by their likeness, path keys by their folding. The two
  say the same of any two characters that fold to one character each, but for ı,
  which is alike to i and folds to itself; and of alike characters only İ and ı do
  not fold to the same. So names that are alike character by character have one
  folding unless they hold one of these two, and names with one folding are alike
  unless they hold a character that folds to several.

    §1 Code points  `foldCodes`, `stand`
    §2 Tables       what folding and lower case have in common
    §3 Agreement    `foldCodes_likenessCode`, `likenessCode_of_foldCodes`
    §4 Characters   `foldChar_of_alike`, `alike_of_foldChar`
    §5 Texts        `flatMap_foldChar_of_alike`, `alike_of_flatMap_foldChar`
-/
import Mathlib.Data.List.Basic
import Mathlib.Data.List.Forall2
import TreeSift.Proofs.Text.Runs
import TreeSift.Text.Fold
import TreeSift.Text.Likeness

namespace TreeSift.Text

/-! ## §1 Code points -/

/-- The folding of a code point. -/
def foldCodes (n : Nat) : List Nat := (foldExpansions.lookup n).getD [mapCode foldRuns n]

/-- The lower-case letter that stands for those that share an upper-case form with a
given one. -/
def stand (n : Nat) : Nat := (likenessPairs.lookup n).getD n

/-- The code points that fold to several. -/
def expanding : List Nat := foldExpansions.map Prod.fst

theorem lookup_eq_none_of_not_mem {β : Type} {t : List (Nat × β)} {n : Nat}
    (outside : n ∉ t.map Prod.fst) : t.lookup n = none := by
  refine List.lookup_eq_none_iff.2 fun p inside => bne_iff_ne.2 ?_
  rintro rfl
  exact outside (List.mem_map_of_mem inside)

/-- What is looked up in a table is in it. -/
theorem mem_of_lookup {β : Type} {t : List (Nat × β)} {n : Nat} {b : β}
    (found : t.lookup n = some b) : (n, b) ∈ t := by
  obtain ⟨before, after, split, -⟩ := List.lookup_eq_some_iff.1 found
  rw [split]
  exact List.mem_append_right _ List.mem_cons_self

theorem foldCodes_of_not_mem {n : Nat} (single : n ∉ expanding) :
    foldCodes n = [mapCode foldRuns n] := by
  rw [foldCodes, lookup_eq_none_of_not_mem single, Option.getD_none]

theorem foldChar_eq (c : Char) : foldChar c = (foldCodes c.toNat).map Char.ofNat := by
  have above : ∀ p ∈ foldExpansions, 0x80 ≤ p.1 := by decide +kernel
  have ascii : ∀ n < 0x80, (Char.ofNat n).toLower = Char.ofNat (mapCode foldRuns n) := by
    decide +kernel
  unfold foldChar
  split_ifs with small
  · have single : c.toNat ∉ expanding := fun inside => by
      obtain ⟨p, inside, eq⟩ := List.mem_map.1 inside
      have := above p inside
      omega
    rw [foldCodes_of_not_mem single, List.map_singleton, ← ascii c.toNat small, Char.ofNat_toNat]
  · cases found : foldExpansions.lookup c.toNat with
    | some image => rw [foldCodes, found, Option.getD_some]
    | none => rw [foldCodes, found, Option.getD_none, List.map_singleton, mapChar]

theorem likenessCode_eq (n : Nat) : likenessCode n = stand (lowerCode n) := by
  have above : ∀ p ∈ likenessPairs, 0x80 ≤ p.1 := by decide +kernel
  unfold likenessCode
  simp only
  split_ifs with small
  · refine (congrArg (Option.getD · _) (lookup_eq_none_of_not_mem fun inside => ?_)).symm
    obtain ⟨p, inside, eq⟩ := List.mem_map.1 inside
    have := above p inside
    omega
  · rfl

/-! ## §2 Tables -/

theorem ascending_lowerRuns : Ascending lowerRuns := by decide +kernel

theorem ascending_foldRuns : Ascending foldRuns := by decide +kernel

/-- Lower case is not lowered again. -/
theorem lower_disjoint : (reached lowerRuns).Disjoint (moved lowerRuns) :=
  disjoint_of_mask (by decide +kernel)

/-- What has been folded is not folded again. -/
theorem fold_disjoint : (reached foldRuns).Disjoint (moved foldRuns ++ expanding) :=
  disjoint_of_mask (by decide +kernel)

/-- What folds to several characters is in no run. -/
theorem moved_disjoint : (moved foldRuns).Disjoint expanding :=
  disjoint_of_mask (by decide +kernel)

/-- Where the runs of lower case begin that do not belong to folding. -/
def lowerOnly : List Nat :=
  [0x130, 0x13A0, 0x13F0, 0x1E9E, 0x1F88, 0x1F98, 0x1FA8, 0x1FBC, 0x1FCC, 0x1FFC]

/-- Where the runs of folding begin that are runs of lower case the other way round. -/
def backward : List Nat := [0x13F8, 0xAB70]

/-- Where the runs of folding begin that do not belong to lower case either way. -/
def foldOnly : List Nat :=
  [0xB5, 0x17F, 0x345, 0x3C2, 0x3D0, 0x3D1, 0x3D5, 0x3D6, 0x3F0, 0x3F1, 0x3F5, 0x1C80, 0x1C81,
    0x1C82, 0x1C83, 0x1C85, 0x1C86, 0x1C87, 0x1C88, 0x1E9B, 0x1FBE]

theorem mem_of_sublist {t u : List Run} {p : Run → Bool} (shared : (t.filter p).isSublist u = true)
    {r : Run} (inside : r ∈ t) (kept : p r = true) : r ∈ u :=
  (List.isSublist_iff_sublist.1 shared).subset (List.mem_filter.2 ⟨inside, kept⟩)

/-- Whether a run of lower case moves code points to others with the same folding to
several characters. -/
def Run.Expands (r : Run) : Prop :=
  ∀ n ∈ r.codes, (foldExpansions.lookup n).isSome ∧
    foldExpansions.lookup (r.image + (n - r.first)) = foldExpansions.lookup n

instance : DecidablePred Run.Expands := fun r =>
  inferInstanceAs (Decidable (∀ n ∈ r.codes, _ ∧ _))

/-- A run of lower case is one of folding, or the other way round, or moves what folds
to several characters. -/
theorem lowerRuns_cases {r : Run} (inside : r ∈ lowerRuns) :
    r ∈ foldRuns ∨ r.inverse ∈ foldRuns ∨ r.codes = [0x130] ∨ r.Expands := by
  have shared : (lowerRuns.filter fun r => !lowerOnly.contains r.first).isSublist foldRuns := by
    decide +kernel
  have others : ∀ r ∈ lowerRuns.filter fun r => lowerOnly.contains r.first,
      r.inverse ∈ foldRuns ∨ r.codes = [0x130] ∨ r.Expands := by
    decide +kernel
  cases only : lowerOnly.contains r.first with
  | true => exact .inr (others r (List.mem_filter.2 ⟨inside, only⟩))
  | false => exact .inl (mem_of_sublist shared inside (by rw [only, Bool.not_false]))

/-- Whether a run of folding moves lower-case letters to others in their group. -/
def Run.Regroups (r : Run) : Prop := ∀ n ∈ r.codes, stand (r.image + (n - r.first)) = stand n

instance : DecidablePred Run.Regroups := fun r => inferInstanceAs (Decidable (∀ n ∈ r.codes, _))

/-- The runs of folding that do not belong to lower case either way. -/
def regrouping : List Run := foldRuns.filter fun r => foldOnly.contains r.first

theorem foldRuns_cases {r : Run} (inside : r ∈ foldRuns) :
    r ∈ lowerRuns ∨ r.inverse ∈ lowerRuns ∨ r ∈ regrouping := by
  have shared : (foldRuns.filter fun r =>
      !(foldOnly.contains r.first || backward.contains r.first)).isSublist lowerRuns := by
    decide +kernel
  have others : ∀ r ∈ foldRuns.filter fun r => backward.contains r.first,
      r.inverse ∈ lowerRuns := by
    decide +kernel
  cases only : foldOnly.contains r.first with
  | true => exact .inr (.inr (List.mem_filter.2 ⟨inside, only⟩))
  | false =>
    cases back : backward.contains r.first with
    | true => exact .inr (.inl (others r (List.mem_filter.2 ⟨inside, back⟩)))
    | false =>
      exact .inl (mem_of_sublist shared inside (by rw [only, back, Bool.or_false, Bool.not_false]))

theorem regroups {r : Run} (inside : r ∈ regrouping) : r.Regroups := by
  have every : ∀ r ∈ regrouping, r.Regroups := by decide +kernel
  exact every r inside

theorem regrouping_disjoint :
    (moved regrouping ++ reached regrouping).Disjoint (moved lowerRuns) :=
  disjoint_of_mask (by decide +kernel)

/-! ## §3 Agreement -/

theorem foldCodes_reached {n : Nat} (inside : n ∈ reached foldRuns) : foldCodes n = [n] := by
  have outside : n ∉ moved foldRuns ++ expanding := fold_disjoint inside
  rw [List.mem_append, not_or] at outside
  rw [foldCodes_of_not_mem outside.2, mapCode_of_not_mem outside.1]

theorem foldCodes_covered {r : Run} (inside : r ∈ foldRuns) {n : Nat}
    (covered : r.covers n = true) : foldCodes n = [r.image + (n - r.first)] := by
  rw [foldCodes_of_not_mem (moved_disjoint (mem_moved inside covered)),
    mapCode_of_covers ascending_foldRuns inside covered]

/-- Folding takes away the difference between upper and lower case, but of İ. -/
theorem foldCodes_lowerCode {n : Nat} (other : n ≠ 0x130) :
    foldCodes (lowerCode n) = foldCodes n := by
  rcases mapCode_eq lowerRuns n with same | ⟨r, inside, covered, image⟩
  · rw [lowerCode, same]
  rw [lowerCode, image]
  rcases lowerRuns_cases inside with fold | fold | single | expands
  · rw [foldCodes_covered fold covered, foldCodes_reached (mem_reached fold covered)]
  · have back := Run.inverse_covers covered
    have reach := mem_reached fold back
    rw [foldCodes_covered fold back]
    rw [Run.inverse_image covered] at reach ⊢
    rw [foldCodes_reached reach]
  · have here := Run.mem_codes covered
    rw [single, List.mem_singleton] at here
    exact absurd here other
  · obtain ⟨some, same⟩ := expands n (Run.mem_codes covered)
    obtain ⟨several, found⟩ := Option.isSome_iff_exists.1 some
    rw [foldCodes, foldCodes, same, found, Option.getD_some, Option.getD_some]

/-- Folding takes away the difference between the members of a group, but of ı. -/
theorem foldCodes_stand {n : Nat} (other : n ≠ 0x131) : foldCodes (stand n) = foldCodes n := by
  have pairs : ∀ p ∈ likenessPairs, p.1 ≠ 0x131 → foldCodes p.2 = foldCodes p.1 := by
    decide +kernel
  cases found : likenessPairs.lookup n with
  | none => rw [stand, found, Option.getD_none]
  | some m =>
    rw [stand, found, Option.getD_some]
    exact pairs (n, m) (mem_of_lookup found) other

theorem lowerCode_ne {n : Nat} (other : n ≠ 0x131) : lowerCode n ≠ 0x131 := by
  have unreached : (reached lowerRuns).Disjoint [0x131] := disjoint_of_mask (by decide +kernel)
  rcases mapCode_eq lowerRuns n with same | ⟨r, inside, covered, image⟩
  · rwa [lowerCode, same]
  · rw [lowerCode, image]
    exact fun eq => unreached (mem_reached inside covered) (List.mem_singleton.2 eq)

/-- **Likeness says no more than folding,** but for two letters. -/
theorem foldCodes_likenessCode {n : Nat} (dotted : n ≠ 0x130) (dotless : n ≠ 0x131) :
    foldCodes (likenessCode n) = foldCodes n := by
  rw [likenessCode_eq, foldCodes_stand (lowerCode_ne dotless), foldCodes_lowerCode dotted]

theorem lowerCode_reached {n : Nat} (inside : n ∈ reached lowerRuns) : lowerCode n = n :=
  mapCode_of_not_mem (lower_disjoint inside)

theorem mapCode_of_foldCodes {n m : Nat} (single : foldCodes n = [m]) : mapCode foldRuns n = m := by
  have several : ∀ p ∈ foldExpansions, p.2.length ≠ 1 := by decide +kernel
  rw [foldCodes] at single
  cases found : foldExpansions.lookup n with
  | none =>
    rw [found, Option.getD_none] at single
    exact List.singleton_inj.1 single
  | some folded =>
    rw [found, Option.getD_some] at single
    exact absurd (congrArg List.length single) (several (n, folded) (mem_of_lookup found))

/-- **Folding to one character says no more than likeness.** -/
theorem likenessCode_of_foldCodes {n m : Nat} (single : foldCodes n = [m]) :
    likenessCode m = likenessCode n := by
  have image := mapCode_of_foldCodes single
  rw [likenessCode_eq, likenessCode_eq]
  rcases mapCode_eq foldRuns n with same | ⟨r, inside, covered, moves⟩
  · rw [← image, same]
  rw [image] at moves
  rcases foldRuns_cases inside with lower | lower | group
  · have lowered : lowerCode n = m := by
      rw [lowerCode, mapCode_of_covers ascending_lowerRuns lower covered, moves]
    have reach := mem_reached lower covered
    rw [← moves] at reach
    rw [lowered, lowerCode_reached reach]
  · have back := Run.inverse_covers covered
    have reach := mem_reached lower back
    have lowered := mapCode_of_covers ascending_lowerRuns lower back
    rw [Run.inverse_image covered] at reach lowered
    rw [← moves] at lowered
    rw [lowerCode_reached reach, lowerCode, lowered]
  · have here : lowerCode n = n := mapCode_of_not_mem
      (regrouping_disjoint (List.mem_append_left _ (mem_moved group covered)))
    have there : lowerCode m = m := by
      rw [moves]
      exact mapCode_of_not_mem
        (regrouping_disjoint (List.mem_append_right _ (mem_reached group covered)))
    rw [here, there, moves]
    exact regroups group n (Run.mem_codes covered)

/-! ## §4 Characters -/

theorem isValidChar_likenessCode (c : Char) : (likenessCode c.toNat).isValidChar := by
  have runs : ∀ r ∈ lowerRuns, r.Valid := by decide +kernel
  have pairs : ∀ p ∈ likenessPairs, p.2 < 0xD800 ∨ 0xDFFF < p.2 ∧ p.2 < 0x110000 := by decide
  have low : (lowerCode c.toNat).isValidChar := isValidChar_mapCode runs c.valid
  rw [likenessCode_eq, stand]
  cases found : likenessPairs.lookup (lowerCode c.toNat) with
  | none => rwa [Option.getD_none]
  | some m =>
    rw [Option.getD_some]
    exact pairs (lowerCode c.toNat, m) (mem_of_lookup found)

/-- Different code points are different characters. -/
theorem ofNat_inj {m n : Nat} (left : m.isValidChar) (right : n.isValidChar) :
    Char.ofNat m = Char.ofNat n ↔ m = n := by
  refine ⟨fun same => ?_, congrArg Char.ofNat⟩
  have codes := congrArg Char.toNat same
  rw [Char.ofNat, dif_pos left, Char.ofNat, dif_pos right] at codes
  exact codes

/-- Characters that are alike have one code point that stands for both. -/
theorem alike_iff {c d : Char} :
    alike c d = true ↔ likenessCode c.toNat = likenessCode d.toNat := by
  rw [alike, beq_iff_eq, likeness, likeness,
    ofNat_inj (isValidChar_likenessCode c) (isValidChar_likenessCode d)]

/-- Whether a character is none of the two letters that are alike to i and fold to
something else. -/
def IsPlain (c : Char) : Prop := c ≠ 'İ' ∧ c ≠ 'ı'

instance : DecidablePred IsPlain := fun c => inferInstanceAs (Decidable (c ≠ 'İ' ∧ c ≠ 'ı'))

/-- **Alike characters have the same folding,** if they are plain. -/
theorem foldChar_of_alike {c d : Char} (same : alike c d = true) (left : IsPlain c)
    (right : IsPlain d) : foldChar c = foldChar d := by
  have differs {a b : Char} (other : a ≠ b) : a.toNat ≠ b.toNat :=
    fun eq => other (Char.toNat_inj.1 eq)
  rw [foldChar_eq, foldChar_eq, ← foldCodes_likenessCode (differs left.1) (differs left.2),
    ← foldCodes_likenessCode (differs right.1) (differs right.2), alike_iff.1 same]

/-- Whether a character folds to a single one. -/
def IsSingle (c : Char) : Prop := (foldChar c).length = 1

instance : DecidablePred IsSingle := fun c => inferInstanceAs (Decidable ((foldChar c).length = 1))

theorem IsSingle.foldCodes {c : Char} (single : IsSingle c) :
    ∃ m, Text.foldCodes c.toNat = [m] ∧ m.isValidChar := by
  have runs : ∀ r ∈ foldRuns, r.Valid := by decide +kernel
  rw [IsSingle, foldChar_eq, List.length_map] at single
  obtain ⟨m, folded⟩ := List.length_eq_one_iff.1 single
  exact ⟨m, folded, mapCode_of_foldCodes folded ▸ isValidChar_mapCode runs c.valid⟩

/-- **Characters with the same folding are alike,** if it is a single character. -/
theorem alike_of_foldChar {c d : Char} (same : foldChar c = foldChar d) (single : IsSingle c) :
    alike c d = true := by
  have other : IsSingle d := by rwa [IsSingle, ← same]
  obtain ⟨m, left, valid⟩ := single.foldCodes
  obtain ⟨n, right, valid'⟩ := other.foldCodes
  rw [foldChar_eq, foldChar_eq, left, right, List.map_singleton, List.map_singleton,
    List.singleton_inj, ofNat_inj valid valid'] at same
  rw [alike_iff, ← likenessCode_of_foldCodes left, ← likenessCode_of_foldCodes right, same]

/-! ## §5 Texts -/

variable {s t : List Char}

theorem flatMap_foldChar_of_alike (same : List.Forall₂ (fun c d => alike c d = true) s t)
    (left : ∀ c ∈ s, IsPlain c) (right : ∀ d ∈ t, IsPlain d) :
    s.flatMap foldChar = t.flatMap foldChar := by
  induction same with
  | nil => rfl
  | @cons c d s t first _ ih =>
    rw [List.forall_mem_cons] at left right
    rw [List.flatMap_cons, List.flatMap_cons, foldChar_of_alike first left.1 right.1,
      ih left.2 right.2]

theorem alike_of_flatMap_foldChar (same : s.flatMap foldChar = t.flatMap foldChar)
    (left : ∀ c ∈ s, IsSingle c) (right : ∀ d ∈ t, IsSingle d) :
    List.Forall₂ (fun c d => alike c d = true) s t := by
  induction s generalizing t with
  | nil =>
    cases t with
    | nil => exact .nil
    | cons d t =>
      obtain ⟨e, folded⟩ := List.length_eq_one_iff.1 (right d List.mem_cons_self)
      rw [List.flatMap_cons, folded] at same
      exact absurd same (by simp)
  | cons c s ih =>
    rw [List.forall_mem_cons] at left
    obtain ⟨e, folded⟩ := List.length_eq_one_iff.1 left.1
    cases t with
    | nil =>
      rw [List.flatMap_cons, folded] at same
      exact absurd same (by simp)
    | cons d t =>
      rw [List.forall_mem_cons] at right
      rw [List.flatMap_cons, List.flatMap_cons] at same
      obtain ⟨first, others⟩ := List.append_inj same (left.1.trans right.1.symm)
      exact .cons (alike_of_foldChar first left.1) (ih others left.2 right.2)

end TreeSift.Text
