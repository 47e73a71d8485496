/-
  TreeSift.Proofs.Search.Blocks — which names a wildcard pattern describes.

  The names that lead to a place are cut into blocks, one for each piece of the
  pattern, where markers next to each other count as one piece (`Fits`). Keeping
  only the first of such markers changes nothing (`fits_collapse`), and among
  the segments that are left no two markers are neighbours (`isChain_collapse`).

    §1 Blocks    `Wildcard.Fits`
    §2 Readings  `fits_name_iff`, `fits_skip_iff`, `fits_last_iff`, …
    §3 Markers   `isChain_collapse`, `fits_collapse`
-/
import Mathlib.Data.List.Chain
import TreeSift.Pattern
import TreeSift.Search.Target

namespace TreeSift.Wildcard

/-! ## §1 Blocks -/

/-- How names are cut into blocks, one for each piece of a pattern. -/
inductive Fits (target : Target) : List String → List String → Prop
  | done : Fits target [] []
  /-- A piece that is no marker takes the one name that its glob describes. -/
  | name {piece name : String} {pieces names : List String} (ordinary : isMultiLevel piece = false)
      (covered : (Glob.ofText piece).covers name = true) (rest : Fits target pieces names) :
      Fits target (piece :: pieces) (name :: names)
  /-- Of two markers next to each other one is enough. -/
  | run {marker next : String} {pieces names : List String} (first : isMultiLevel marker = true)
      (second : isMultiLevel next = true) (rest : Fits target (next :: pieces) names) :
      Fits target (marker :: next :: pieces) names
  /-- Markers with another piece after them take any number of names. -/
  | skip {marker next : String} {pieces names : List String} (skipped : List String)
      (first : isMultiLevel marker = true) (second : isMultiLevel next = false)
      (rest : Fits target (next :: pieces) names) :
      Fits target (marker :: next :: pieces) (skipped ++ names)
  /-- Markers at the end take one name when files are looked for … -/
  | file {marker name : String} (last : isMultiLevel marker = true) (files : target = .file) :
      Fits target [marker] [name]
  /-- … and one name or more when directories are. -/
  | directories {marker : String} {names : List String} (last : isMultiLevel marker = true)
      (dirs : target = .directory) (some : names ≠ []) : Fits target [marker] names

/-! ## §2 Readings -/

variable {target : Target}

/-- A pattern with pieces describes no empty list of names. -/
theorem Fits.names_ne_nil {pieces names : List String} (h : Fits target pieces names)
    (ne : pieces ≠ []) : names ≠ [] := by
  induction h with
  | done => exact absurd rfl ne
  | name => simp
  | run first second rest ih => exact ih (by simp)
  | skip skipped first second rest ih =>
    intro h
    exact ih (by simp) (List.append_eq_nil_iff.1 h).2
  | file => simp
  | directories last dirs some => exact some

theorem fits_nil_iff {names : List String} : Fits target [] names ↔ names = [] := by
  constructor
  · rintro ⟨⟩
    rfl
  · rintro rfl
    exact .done

theorem fits_name_iff {piece : String} {pieces names : List String}
    (ordinary : isMultiLevel piece = false) :
    Fits target (piece :: pieces) names ↔
      ∃ name rest, names = name :: rest ∧ (Glob.ofText piece).covers name = true ∧
        Fits target pieces rest := by
  constructor
  · intro h
    cases h with
    | name _ covered rest => exact ⟨_, _, rfl, covered, rest⟩
    | run first => simp [ordinary] at first
    | skip _ first => simp [ordinary] at first
    | file last => simp [ordinary] at last
    | directories last => simp [ordinary] at last
  · rintro ⟨name, rest, rfl, covered, h⟩
    exact .name ordinary covered h

theorem fits_run_iff {marker next : String} {pieces names : List String}
    (first : isMultiLevel marker = true) (second : isMultiLevel next = true) :
    Fits target (marker :: next :: pieces) names ↔ Fits target (next :: pieces) names := by
  refine ⟨fun h => ?_, .run first second⟩
  cases h with
  | name ordinary => simp [first] at ordinary
  | run _ _ rest => exact rest
  | skip _ _ ordinary => simp [second] at ordinary

theorem fits_skip_iff {marker next : String} {pieces names : List String}
    (first : isMultiLevel marker = true) (second : isMultiLevel next = false) :
    Fits target (marker :: next :: pieces) names ↔
      ∃ skipped rest, names = skipped ++ rest ∧ Fits target (next :: pieces) rest := by
  constructor
  · intro h
    cases h with
    | name ordinary => simp [first] at ordinary
    | run _ marked => simp [second] at marked
    | skip skipped _ _ rest => exact ⟨skipped, _, rfl, rest⟩
  · rintro ⟨skipped, rest, rfl, h⟩
    exact .skip skipped first second h

theorem fits_file_iff {marker : String} {names : List String} (last : isMultiLevel marker = true) :
    Fits .file [marker] names ↔ ∃ name, names = [name] := by
  constructor
  · intro h
    cases h with
    | name ordinary => simp [last] at ordinary
    | file => exact ⟨_, rfl⟩
    | directories _ dirs => exact absurd dirs (by simp)
  · rintro ⟨name, rfl⟩
    exact .file last rfl

theorem fits_directories_iff {marker : String} {names : List String}
    (last : isMultiLevel marker = true) : Fits .directory [marker] names ↔ names ≠ [] := by
  constructor
  · exact fun h => h.names_ne_nil (by simp)
  · exact .directories last rfl

theorem fits_last_iff {piece : String} {names : List String}
    (ordinary : isMultiLevel piece = false) :
    Fits target [piece] names ↔ ∃ name, names = [name] ∧ (Glob.ofText piece).covers name = true := by
  simp only [fits_name_iff ordinary, fits_nil_iff]
  constructor
  · rintro ⟨name, rest, rfl, covered, rfl⟩
    exact ⟨name, rfl, covered⟩
  · rintro ⟨name, rfl, covered⟩
    exact ⟨name, [], rfl, covered, rfl⟩

/-! ## §3 Markers -/

/-- All markers describe the same. -/
theorem Fits.marker {marker other : String} {pieces names : List String}
    (hm : isMultiLevel marker = true) (ho : isMultiLevel other = true)
    (h : Fits target (marker :: pieces) names) : Fits target (other :: pieces) names := by
  cases h with
  | name ordinary => simp [hm] at ordinary
  | run _ second rest => exact .run ho second rest
  | skip skipped _ second rest => exact .skip skipped ho second rest
  | file _ files => exact .file ho files
  | directories _ dirs some => exact .directories ho dirs some

/-- Two segments of which not both are markers. -/
def Apart (a b : String) : Prop := ¬ (isMultiLevel a = true ∧ isMultiLevel b = true)

theorem Apart.of_marker {a b : String} (h : Apart a b) (ha : isMultiLevel a = true) :
    isMultiLevel b = false := by
  simpa [Apart, ha] using h

theorem isChain_collapseAfter (afterMarker : Bool) (segments : List String) :
    (Pattern.collapseAfter afterMarker segments).IsChain Apart ∧
      (afterMarker = true → ∀ s ∈ (Pattern.collapseAfter afterMarker segments).head?,
        isMultiLevel s = false) := by
  induction segments generalizing afterMarker with
  | nil => simp [Pattern.collapseAfter]
  | cons s rest ih =>
    rw [Pattern.collapseAfter]
    cases hs : isMultiLevel s with
    | false =>
      obtain ⟨chain, -⟩ := ih false
      simp [List.isChain_cons, chain, Apart, hs]
    | true =>
      obtain ⟨chain, head⟩ := ih true
      cases afterMarker with
      | true => simpa using ⟨chain, head rfl⟩
      | false =>
        simp only [Bool.and_false, Bool.false_eq_true, if_false, List.isChain_cons]
        refine ⟨⟨fun b hb hab => ?_, chain⟩, by simp⟩
        simp [head rfl b hb] at hab

/-- Of the segments that are kept, no two neighbours are markers. -/
theorem isChain_collapse (segments : List String) : (Pattern.collapse segments).IsChain Apart :=
  (isChain_collapseAfter false segments).1

theorem fits_marker_iff {marker other : String} {pieces names : List String}
    (hm : isMultiLevel marker = true) (ho : isMultiLevel other = true) :
    Fits target (marker :: pieces) names ↔ Fits target (other :: pieces) names :=
  ⟨Fits.marker hm ho, Fits.marker ho hm⟩

/-- Leaving out markers after markers changes nothing, be it after a marker or not. -/
theorem fits_collapseAfter (pieces : List String) :
    (∀ names, Fits target (Pattern.collapseAfter false pieces) names ↔ Fits target pieces names) ∧
      (∀ marker names, isMultiLevel marker = true →
        (Fits target (marker :: Pattern.collapseAfter true pieces) names ↔
          Fits target (marker :: pieces) names)) := by
  induction pieces with
  | nil => simp [Pattern.collapseAfter]
  | cons piece rest ih =>
    obtain ⟨plain, marked⟩ := ih
    simp only [Pattern.collapseAfter]
    cases hp : isMultiLevel piece with
    | true =>
      refine ⟨fun names => ?_, fun marker names hm => ?_⟩
      · simpa using marked piece names hp
      · simp only [Bool.and_self, if_true]
        rw [marked marker names hm, fits_run_iff hm hp, fits_marker_iff hm hp]
    | false =>
      have ordinary : ∀ names, Fits target (piece :: Pattern.collapseAfter false rest) names ↔
          Fits target (piece :: rest) names := by
        intro names
        simp only [fits_name_iff hp, plain]
      refine ⟨fun names => ?_, fun marker names hm => ?_⟩
      · simpa using ordinary names
      · simp only [Bool.false_and, Bool.false_eq_true, if_false, fits_skip_iff hm hp, ordinary]

/-- The segments of a pattern describe what all its pieces do. -/
theorem fits_collapse (pieces names : List String) :
    Fits target (Pattern.collapse pieces) names ↔ Fits target pieces names :=
  (fits_collapseAfter pieces).1 names

end TreeSift.Wildcard
