/-
  TreeSift.Proofs.Text.Blank — trimming a second time changes nothing.

  A trimmed text has no blank at either end (`trimmed_eq_self`), and that is all
  that trimming asks for.
-/
import Mathlib.Data.List.DropRight
import TreeSift.Text.Blank

namespace TreeSift.Text

/-- The blanks at the end are those that are dropped from the right. -/
theorem trimEnd_eq (s : List Char) : trimEnd s = s.rdropWhile isBlank := rfl

/-- A text without blanks at its two ends is left as it is. -/
theorem trimmed_eq_self {s : List Char} (first : ∀ c ∈ s.head?, isBlank c = false)
    (last : ∀ c ∈ s.getLast?, isBlank c = false) : trimmed s = s := by
  have start : trimStart s = s := by
    cases s with
    | nil => rfl
    | cons c rest =>
      have plain : isBlank c = false := first c rfl
      rw [trimStart, List.dropWhile_cons_of_neg (by simp [plain])]
  rw [trimmed, start, trimEnd_eq, List.rdropWhile_eq_self_iff]
  intro ne
  have plain := last (s.getLast ne) (List.getLast?_eq_some_getLast ne)
  simp [plain]

theorem head?_trimmed {s : List Char} : ∀ c ∈ (trimmed s).head?, isBlank c = false := by
  intro c hc
  -- What is trimmed at the end has the same first character as what is not.
  obtain ⟨dropped, hd⟩ : trimmed s <+: trimStart s := List.rdropWhile_prefix isBlank _
  have hfirst : (trimStart s).head? = some c := by
    rw [← hd, List.head?_append, hc, Option.some_or]
  have := List.head?_dropWhile_not isBlank s
  rw [trimStart] at hfirst
  simpa [hfirst] using this

theorem getLast?_trimmed {s : List Char} : ∀ c ∈ (trimmed s).getLast?, isBlank c = false := by
  intro c hc
  have ne : trimmed s ≠ [] := by
    intro hn
    rw [hn] at hc
    exact absurd hc (by simp)
  have last : ¬ isBlank ((trimmed s).getLast ne) = true :=
    List.rdropWhile_last_not isBlank (trimStart s) ne
  rw [List.getLast?_eq_some_getLast ne] at hc
  rw [← Option.some.inj hc]
  simpa using last

/-- A trimmed text stays as it is when it is trimmed again. -/
theorem trimmed_trimmed (s : List Char) : trimmed (trimmed s) = trimmed s :=
  trimmed_eq_self head?_trimmed getLast?_trimmed

end TreeSift.Text
