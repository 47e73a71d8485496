/-
  TreeSift.Proofs.Pattern.Composition — patterns put together.

  Whether a marker is left out is decided by the segment before it alone, so what a
  first list of segments leaves to a second one is whether it ends in a marker
  (`collapseAfter_append`). Leaving out markers does not change that
  (`endsInMarker_collapseAfter`), so it may be done to both lists beforehand
  (`collapse_append`), and two patterns with a slash between them have the segments
  of both, collapsed once more. What is kept in the end is the first marker of each
  run and every other segment (`collapse_eq_heads`).

    §1 Ends      `endsInMarker`, `collapseAfter_append`
    §2 Lists     `collapseAfter_collapseAfter`, `collapse_append`
    §3 Runs      `runs`, `collapse_eq_heads`
    §4 Patterns  `rawSegments_append`, `segments_composed`
-/
import Mathlib.Data.List.SplitBy
import TreeSift.Pattern
import TreeSift.Proofs.Text.Pieces

namespace TreeSift.Pattern

/-! ## §1 Ends -/

/-- Whether the last of some segments is a marker; where there are none, whether the
segment before them is. -/
def endsInMarker (afterMarker : Bool) : List String → Bool
  | [] => afterMarker
  | segment :: rest => endsInMarker (isMultiLevel segment) rest

theorem endsInMarker_eq (afterMarker : Bool) {segments : List String} (ne : segments ≠ []) :
    endsInMarker afterMarker segments = isMultiLevel (segments.getLast ne) := by
  induction segments generalizing afterMarker with
  | nil => exact absurd rfl ne
  | cons s rest ih =>
    cases rest with
    | nil => rfl
    | cons next more => exact ih (isMultiLevel s) (by simp)

theorem collapseAfter_append (afterMarker : Bool) (a b : List String) :
    collapseAfter afterMarker (a ++ b) =
      collapseAfter afterMarker a ++ collapseAfter (endsInMarker afterMarker a) b := by
  induction a generalizing afterMarker with
  | nil => rfl
  | cons s rest ih =>
    simp only [List.cons_append, collapseAfter, endsInMarker]
    split
    · rename_i left
      rw [ih, (Bool.and_eq_true_iff.1 left).1]
    · rw [ih, List.cons_append]

/-- What is left of some segments ends in a marker if they do. -/
theorem endsInMarker_collapseAfter (afterMarker : Bool) (segments : List String) :
    endsInMarker afterMarker (collapseAfter afterMarker segments) =
      endsInMarker afterMarker segments := by
  induction segments generalizing afterMarker with
  | nil => rfl
  | cons s rest ih =>
    simp only [collapseAfter, endsInMarker]
    split
    · rename_i left
      obtain ⟨marker, after⟩ := Bool.and_eq_true_iff.1 left
      rw [after, marker]
      exact ih true
    · exact ih (isMultiLevel s)

/-! ## §2 Lists -/

/-- Collapsing twice is collapsing once, after a marker if one of the two is. -/
theorem collapseAfter_collapseAfter (outer inner : Bool) (segments : List String) :
    collapseAfter outer (collapseAfter inner segments) =
      collapseAfter (outer || inner) segments := by
  induction segments generalizing outer inner with
  | nil => rfl
  | cons s rest ih =>
    cases marker : isMultiLevel s with
    | false => simp [collapseAfter, marker, ih]
    | true => cases outer <;> cases inner <;> simp [collapseAfter, marker, ih]

/-- Two lists may be collapsed each before they are together. -/
theorem collapse_append (a b : List String) :
    collapse (a ++ b) = collapse (collapse a ++ collapse b) := by
  have first : collapseAfter false (collapseAfter false a) = collapseAfter false a :=
    collapseAfter_collapseAfter false false a
  have second : collapseAfter (endsInMarker false a) (collapseAfter false b) =
      collapseAfter (endsInMarker false a) b := by
    rw [collapseAfter_collapseAfter, Bool.or_false]
  simp only [collapse]
  rw [collapseAfter_append, collapseAfter_append, first, endsInMarker_collapseAfter, second]

/-! ## §3 Runs -/

/-- Whether two neighbours are in the same run: both are markers. -/
def sameRun (a b : String) : Bool := isMultiLevel a && isMultiLevel b

/-- Segments cut between any two neighbours that are not both markers: the longest runs
of markers, and all other segments one by one. -/
def runs (segments : List String) : List (List String) := segments.splitBy sameRun

/-- In a run there is nothing to keep behind the first segment. -/
theorem collapseAfter_rest {s : String} {more : List String}
    (run : (s :: more).IsChain fun a b => sameRun a b) :
    collapseAfter (isMultiLevel s) more = [] := by
  induction more generalizing s with
  | nil => rfl
  | cons next rest ih =>
    obtain ⟨same, run⟩ := List.isChain_cons_cons.1 run
    obtain ⟨marker, marker'⟩ := Bool.and_eq_true_iff.1 same
    have gone : collapseAfter (isMultiLevel next) rest = [] := ih run
    rw [marker'] at gone
    simp [collapseAfter, marker, marker', gone]

theorem collapseAfter_run {afterMarker : Bool} {s : String} {more : List String}
    (run : (s :: more).IsChain fun a b => sameRun a b)
    (first : afterMarker = true → isMultiLevel s = false) :
    collapseAfter afterMarker (s :: more) = [s] := by
  have stays : (isMultiLevel s && afterMarker) = false := by
    cases afterMarker with
    | false => simp
    | true => simp [first rfl]
  simp [collapseAfter, stays, collapseAfter_rest run]

/-- Runs after each other, of which no two can be one, leave their first segments. -/
theorem collapseAfter_flatten {runs : List (List String)} (filled : [] ∉ runs)
    (each : ∀ run ∈ runs, run.IsChain fun a b => sameRun a b)
    (borders : runs.IsChain fun a b => ∃ ha hb, sameRun (a.getLast ha) (b.head hb) = false)
    {afterMarker : Bool}
    (first : afterMarker = true → ∀ run ∈ runs.head?, ∀ s ∈ run.head?, isMultiLevel s = false) :
    collapseAfter afterMarker runs.flatten = runs.filterMap List.head? := by
  induction runs generalizing afterMarker with
  | nil => rfl
  | cons run rest ih =>
    cases run with
    | nil => exact absurd List.mem_cons_self filled
    | cons s more =>
      obtain ⟨border, borders⟩ := List.isChain_cons.1 borders
      obtain ⟨here, others⟩ := List.forall_mem_cons.1 each
      have kept : collapseAfter afterMarker (s :: more) = [s] :=
        collapseAfter_run here fun after => first after _ rfl _ rfl
      have onward : collapseAfter (endsInMarker afterMarker (s :: more)) rest.flatten =
          rest.filterMap List.head? := by
        -- The next run does not begin with a marker if this one ends in one.
        rw [endsInMarker_eq afterMarker (List.cons_ne_nil s more)]
        refine ih (fun inside => filled (List.mem_cons_of_mem _ inside)) others borders ?_
        intro marker next hnext x hx
        obtain ⟨_, _, apart⟩ := border next hnext
        rw [sameRun, marker, Bool.true_and, List.head_of_mem_head? hx] at apart
        exact apart
      rw [List.flatten_cons, collapseAfter_append, kept, onward]
      rfl

/-- What is kept are the first segments of all runs. -/
theorem collapse_eq_heads (segments : List String) :
    collapse segments = (runs segments).filterMap List.head? :=
  calc collapse segments = collapseAfter false (runs segments).flatten := by
        rw [runs, List.flatten_splitBy, collapse]
    _ = (runs segments).filterMap List.head? :=
        collapseAfter_flatten (List.nil_notMem_splitBy _ _)
          (fun _ => List.isChain_of_mem_splitBy) (List.isChain_getLast_head_splitBy _ _) nofun

/-! ## §4 Patterns -/

/-- A pattern is cut at a slash, and before and after it independently. -/
theorem rawSegments_append (p q : String) :
    rawSegments (p ++ "/" ++ q) = rawSegments p ++ rawSegments q := by
  have cut : Text.pieces '/' (p ++ "/" ++ q).toList =
      Text.pieces '/' p.toList ++ Text.pieces '/' q.toList := by
    rw [String.append_assoc, String.toList_append, String.toList_append]
    exact Text.pieces_append '/' p.toList q.toList
  simp only [rawSegments, cut, List.map_append, List.filter_append]

/-- **Patterns put together.** Two patterns with a slash between them have the segments
of the first and those of the second, collapsed together. Lists of segments may be
collapsed each before they are collapsed together. And what collapsing keeps of a list
is the first segment of each run, a run being a longest row of markers or any other
segment by itself (`List.splitBy_eq_iff`). -/
theorem segments_composed :
    (∀ p q, segments (p ++ "/" ++ q) = collapse (segments p ++ segments q)) ∧
    (∀ a b, collapse (a ++ b) = collapse (collapse a ++ collapse b)) ∧
    ∀ l, collapse l = (runs l).filterMap List.head? := by
  refine ⟨?_, collapse_append, collapse_eq_heads⟩
  intro p q
  rw [segments, rawSegments_append, collapse_append]
  rfl

/-- A run of markers on both sides of the slash, with a blank piece in it. -/
example : segments ("a/***" ++ "/" ++ "/ **/b") = ["a", "***", "b"] := by decide +kernel

end TreeSift.Pattern
