/-
  TreeSift.Proofs.Pattern.NormalForm — segments are a normal form of patterns.

  A pattern is cut, its pieces are trimmed, the empty ones dropped and markers after
  markers left out. No step undoes an earlier one: trimming keeps slashes out of the
  pieces, and whatever trimming and dropping make neighbours of each other is only
  then collapsed. So segments are never empty, hold no slash, have no blanks at their
  ends and no marker beside a marker (`isNormal_segments`). Segments like these are
  left as they are when they are joined and cut again (`segments_intercalate`).

    §1 Markers   `collapse_eq_self`
    §2 Pieces    `mem_rawSegments`, `segments_intercalate`
    §3 Segments  `IsNormal`, `isNormal_segments`, `segments_normal_form`
-/
import TreeSift.Proofs.Search.Blocks
import TreeSift.Proofs.Text.Blank
import TreeSift.Proofs.Text.Pieces

namespace TreeSift.Pattern

open Wildcard (Apart)

/-! ## §1 Markers -/

theorem collapseAfter_eq_self {segments : List String} (apart : segments.IsChain Apart)
    {afterMarker : Bool}
    (first : afterMarker = true → ∀ s ∈ segments.head?, isMultiLevel s = false) :
    collapseAfter afterMarker segments = segments := by
  induction segments generalizing afterMarker with
  | nil => rfl
  | cons s rest ih =>
    rw [List.isChain_cons] at apart
    obtain ⟨next, apart⟩ := apart
    have kept : collapseAfter (isMultiLevel s) rest = rest := by
      apply ih apart
      intro marker n hn
      exact (next n hn).of_marker marker
    have stays : (isMultiLevel s && afterMarker) = false := by
      cases afterMarker with
      | false => simp
      | true => simp [first rfl s rfl]
    simp [collapseAfter, stays, kept]

/-- Where no marker follows a marker there is nothing to leave out. -/
theorem collapse_eq_self {segments : List String} (apart : segments.IsChain Apart) :
    collapse segments = segments :=
  collapseAfter_eq_self apart (by simp)

/-! ## §2 Pieces -/

theorem mem_of_mem_trimmed {s : List Char} {c : Char} (inside : c ∈ Text.trimmed s) : c ∈ s := by
  have inner := (List.dropWhile_sublist _).subset (List.mem_reverse.1 inside)
  exact (List.dropWhile_sublist _).subset (List.mem_reverse.1 inner)

/-- What a pattern is cut into before markers are left out. -/
theorem mem_rawSegments {pattern s : String} (inside : s ∈ rawSegments pattern) :
    s ≠ "" ∧ '/' ∉ s.toList ∧ Text.trim s = s := by
  obtain ⟨trimmed, kept, rfl⟩ := List.mem_map.1 inside
  obtain ⟨among, filled⟩ := List.mem_filter.1 kept
  obtain ⟨piece, cut, rfl⟩ := List.mem_map.1 among
  refine ⟨?_, ?_, ?_⟩
  · intro empty
    have none : Text.trimmed piece = [] := by
      rw [← String.toList_ofList (l := Text.trimmed piece), empty, String.toList_empty]
    simp [none] at filled
  · rw [String.toList_ofList]
    exact fun slash => Text.not_mem_of_mem_pieces cut (mem_of_mem_trimmed slash)
  · rw [Text.trim, String.toList_ofList, Text.trimmed_trimmed]

theorem ofList_trimmed {name : String} (trim : Text.trim name = name) :
    Text.trimmed name.toList = name.toList := by
  have same := congrArg String.toList trim
  rwa [Text.trim, String.toList_ofList] at same

/-- Trimmed texts without slashes are the pieces of what they are joined to. -/
theorem rawSegments_intercalate {names : List String} (filled : ∀ n ∈ names, n ≠ "")
    (whole : ∀ n ∈ names, '/' ∉ n.toList) (trim : ∀ n ∈ names, Text.trim n = n) :
    rawSegments ("/".intercalate names) = names := by
  cases names with
  | nil => rfl
  | cons first rest =>
    have cut : Text.pieces '/' ("/".intercalate (first :: rest)).toList =
        (first :: rest).map String.toList := by
      rw [← Text.joined_toList]
      apply Text.pieces_joined
      · simp
      · intro p hp
        obtain ⟨n, hn, rfl⟩ := List.mem_map.1 hp
        exact whole n hn
    have trimmed : ((first :: rest).map String.toList).map Text.trimmed =
        (first :: rest).map String.toList := by
      rw [List.map_map]
      apply List.map_congr_left
      intro n hn
      exact ofList_trimmed (trim n hn)
    have kept : ((first :: rest).map String.toList).filter (· ≠ []) =
        (first :: rest).map String.toList := by
      rw [List.filter_eq_self]
      intro p hp
      obtain ⟨n, hn, rfl⟩ := List.mem_map.1 hp
      simpa [String.toList_eq_nil_iff] using filled n hn
    rw [rawSegments, cut, trimmed, kept, List.map_map]
    simp [Function.comp_def]

/-- Texts that can be segments, no marker beside a marker, are the segments of what they
are joined to. -/
theorem segments_intercalate {names : List String} (filled : ∀ n ∈ names, n ≠ "")
    (whole : ∀ n ∈ names, '/' ∉ n.toList) (trim : ∀ n ∈ names, Text.trim n = n)
    (apart : names.IsChain Apart) : segments ("/".intercalate names) = names := by
  rw [segments, rawSegments_intercalate filled whole trim, collapse_eq_self apart]

/-! ## §3 Segments -/

/-- Whether texts can be the segments of a pattern: none of them is empty, holds a
slash or has blanks at its ends, and no marker is beside a marker. -/
structure IsNormal (segments : List String) : Prop where
  filled : ∀ s ∈ segments, s ≠ ""
  whole : ∀ s ∈ segments, '/' ∉ s.toList
  trim : ∀ s ∈ segments, Text.trim s = s
  apart : segments.IsChain Apart

instance : DecidableRel Apart := fun a b =>
  inferInstanceAs (Decidable (¬ (isMultiLevel a = true ∧ isMultiLevel b = true)))

instance : DecidablePred IsNormal := fun segments =>
  decidable_of_iff
    ((∀ s ∈ segments, s ≠ "") ∧ (∀ s ∈ segments, '/' ∉ s.toList) ∧
      (∀ s ∈ segments, Text.trim s = s) ∧ segments.IsChain Apart)
    ⟨fun ⟨filled, whole, trim, apart⟩ => ⟨filled, whole, trim, apart⟩,
      fun normal => ⟨normal.filled, normal.whole, normal.trim, normal.apart⟩⟩

/-- The segments of a pattern are normal. -/
theorem isNormal_segments (pattern : String) : IsNormal (segments pattern) := by
  have raw : ∀ s ∈ segments pattern, s ≠ "" ∧ '/' ∉ s.toList ∧ Text.trim s = s :=
    fun s hs => mem_rawSegments ((collapseAfter_sublist false _).subset hs)
  exact ⟨fun s hs => (raw s hs).1, fun s hs => (raw s hs).2.1, fun s hs => (raw s hs).2.2,
    Wildcard.isChain_collapse _⟩

/-- A pattern is cut at all of its slashes. -/
theorem slash_not_mem_segments {pattern segment : String} (inside : segment ∈ segments pattern) :
    '/' ∉ segment.toList :=
  (isNormal_segments pattern).whole segment inside

/-- **Segments are a normal form.** The segments of any pattern are not empty, hold no
slash, have no blanks at their ends and no marker beside a marker. Any texts like this,
joined by slashes, are a pattern with just these segments. So joining the segments of a
pattern and cutting them again gives the same segments, and the texts that are the
segments of some pattern are exactly those that are normal. -/
theorem segments_normal_form :
    (∀ pattern, IsNormal (segments pattern)) ∧
    (∀ names, IsNormal names → segments ("/".intercalate names) = names) ∧
    (∀ pattern, segments ("/".intercalate (segments pattern)) = segments pattern) ∧
    ∀ names, IsNormal names ↔ ∃ pattern, segments pattern = names := by
  have joined : ∀ names, IsNormal names → segments ("/".intercalate names) = names :=
    fun _ normal => segments_intercalate normal.filled normal.whole normal.trim normal.apart
  refine ⟨isNormal_segments, joined, fun pattern => joined _ (isNormal_segments pattern), ?_⟩
  intro names
  constructor
  · intro normal
    exact ⟨_, joined names normal⟩
  · rintro ⟨pattern, rfl⟩
    exact isNormal_segments pattern

/-- Segments with a marker on each side of a star, a blank inside, and a zero-width
space, which is not trimmed. -/
theorem segments_of_joined :
    IsNormal ["***", "*", "**", "a b", "\u200b**"] ∧
    segments " ***//*/ \u2003/**/a b/\u200b**" = ["***", "*", "**", "a b", "\u200b**"] ∧
    segments ("/".intercalate ["***", "*", "**", "a b", "\u200b**"]) =
      ["***", "*", "**", "a b", "\u200b**"] := by
  have normal : IsNormal ["***", "*", "**", "a b", "\u200b**"] := by decide +kernel
  exact ⟨normal, by decide +kernel, segments_normal_form.2.1 _ normal⟩

end TreeSift.Pattern
