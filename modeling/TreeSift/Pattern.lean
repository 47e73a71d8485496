/-
  TreeSift.Pattern — wildcard patterns and their segments.

  A wildcard pattern is cut at slashes. Its pieces are trimmed, the empty ones
  dropped, and of several multi-level markers in a row only the first is kept.
  What is left are the segments of the pattern.
-/
import TreeSift.Glob
import TreeSift.Text.Blank
import TreeSift.Text.Pieces

namespace TreeSift.Pattern

/-- Leaves out every marker that follows a marker; `afterMarker` tells whether
the segment before the list is one. -/
def collapseAfter (afterMarker : Bool) : List String → List String
  | [] => []
  | segment :: rest =>
    let marker := isMultiLevel segment
    if marker && afterMarker then collapseAfter true rest
    else segment :: collapseAfter marker rest

/-- Keeps the first of every run of multi-level markers. -/
def collapse (segments : List String) : List String := collapseAfter false segments

/-- What is kept stays in order. -/
theorem collapseAfter_sublist (afterMarker : Bool) (segments : List String) :
    List.Sublist (collapseAfter afterMarker segments) segments := by
  induction segments generalizing afterMarker with
  | nil => exact List.Sublist.refl _
  | cons segment rest ih =>
    simp only [collapseAfter]
    split
    · exact (ih true).cons segment
    · exact (ih _).cons_cons segment

/-- The pieces of a pattern between slashes, trimmed, without the empty ones. -/
def rawSegments (pattern : String) : List String :=
  ((Text.pieces '/' pattern.toList).map Text.trimmed |>.filter (· ≠ [])).map String.ofList

/-- The segments of a pattern. -/
def segments (pattern : String) : List String := collapse (rawSegments pattern)

end TreeSift.Pattern
