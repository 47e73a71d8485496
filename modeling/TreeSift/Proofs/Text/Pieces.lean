/-
  TreeSift.Proofs.Text.Pieces — cutting and joining are inverse.

  Joining the pieces of a text gives the text back whatever it is. Here is the
  other direction: pieces without the separator are what their joined text is
  cut into, provided that there is at least one.

    §1 Cutting  `pieces_append`, `pieces_joined`
    §2 Texts    `joined_toList`
-/
import TreeSift.Text.Pieces

namespace TreeSift.Text

/-! ## §1 Cutting -/

/-- No piece of a text holds the separator. -/
theorem not_mem_of_mem_pieces {sep : Char} {s piece : List Char} (h : piece ∈ pieces sep s) :
    sep ∉ piece := by
  induction s generalizing piece with
  | nil =>
    simp only [pieces, List.mem_singleton] at h
    simp [h]
  | cons c rest ih =>
    rw [pieces] at h
    split at h
    · rcases List.mem_cons.1 h with rfl | h
      · simp
      · exact ih h
    · rename_i hne
      split at h
      · rcases List.mem_singleton.1 h with rfl
        simpa using Ne.symm hne
      · rename_i first more hp
        rcases List.mem_cons.1 h with rfl | h
        · have hfirst : sep ∉ first := ih (hp ▸ List.mem_cons_self)
          simp [Ne.symm hne, hfirst]
        · exact ih (hp ▸ List.mem_cons_of_mem _ h)

theorem pieces_of_not_mem {sep : Char} {s : List Char} (h : sep ∉ s) : pieces sep s = [s] := by
  induction s with
  | nil => rfl
  | cons c rest ih =>
    simp only [List.mem_cons, not_or] at h
    rw [pieces, if_neg (Ne.symm h.1), ih h.2]

/-- A text is cut wherever it has a separator, before and after independently. -/
theorem pieces_append (sep : Char) (s r : List Char) :
    pieces sep (s ++ sep :: r) = pieces sep s ++ pieces sep r := by
  induction s with
  | nil => simp [pieces]
  | cons c rest ih =>
    rw [List.cons_append, pieces, pieces]
    split
    · rw [ih, List.cons_append]
    · rw [ih]
      cases hp : pieces sep rest with
      | nil => exact absurd hp (pieces_ne_nil sep rest)
      | cons piece more => rfl

theorem pieces_joined {sep : Char} {ps : List (List Char)} (ne : ps ≠ [])
    (h : ∀ p ∈ ps, sep ∉ p) : pieces sep (joined sep ps) = ps := by
  induction ps with
  | nil => exact absurd rfl ne
  | cons p ps ih =>
    have hp : sep ∉ p := h p List.mem_cons_self
    cases ps with
    | nil => exact pieces_of_not_mem hp
    | cons q qs =>
      rw [joined, pieces_append, pieces_of_not_mem hp,
        ih (by simp) fun r hr => h r (List.mem_cons_of_mem _ hr)]
      · rfl
      · simp

/-! ## §2 Texts -/

/-- Texts joined by slashes, character by character. -/
theorem joined_toList (texts : List String) :
    joined '/' (texts.map String.toList) = ("/".intercalate texts).toList := by
  induction texts with
  | nil => simp [joined]
  | cons text rest ih =>
    cases rest with
    | nil => simp [joined]
    | cons next more =>
      rw [List.map_cons] at ih
      simp [joined, ih, String.intercalate_cons_cons]

end TreeSift.Text
