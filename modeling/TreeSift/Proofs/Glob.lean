/-
  TreeSift.Proofs.Glob — globs made of stars only.

  A glob of one star or more describes every name. The glob for all names and,
  where a marker stands for a single name, the marker itself are of this sort.
-/
import TreeSift.Glob

namespace TreeSift

namespace Glob

theorem ends_eq_cons (s : List Char) : ∃ shorter, ends s = s :: shorter := by
  cases s with
  | nil => exact ⟨[], rfl⟩
  | cons c rest => exact ⟨ends rest, rfl⟩

/-- After stars the name may have been taken as a whole. -/
theorem nil_mem_foldl_runs {g : Glob} (runs : ∀ p ∈ g, p = .run) (ne : g ≠ [])
    (longest : List Char) (others : List (List Char)) :
    [] ∈ g.foldl advance (longest :: others) := by
  induction g generalizing longest others with
  | nil => exact absurd rfl ne
  | cons p g ih =>
    obtain rfl := runs p List.mem_cons_self
    rw [List.foldl_cons, advance]
    cases g with
    | nil => exact mem_ends.2 (List.nil_suffix)
    | cons q g =>
      obtain ⟨shorter, hs⟩ := ends_eq_cons longest
      rw [hs]
      exact ih (fun p hp => runs p (List.mem_cons_of_mem _ hp)) (by simp) longest shorter

theorem covers_runs {g : Glob} (runs : ∀ p ∈ g, p = .run) (ne : g ≠ []) (name : String) :
    g.covers name = true :=
  List.any_eq_true.2 ⟨[], nil_mem_foldl_runs runs ne _ _, rfl⟩

end Glob

/-- A marker that stands for one name stands for any. -/
theorem covers_of_isMultiLevel {marker : String} (h : isMultiLevel marker = true) (name : String) :
    (Glob.ofText marker).covers name = true := by
  simp only [isMultiLevel, Bool.and_eq_true, decide_eq_true_eq, List.all_eq_true] at h
  obtain ⟨long, stars⟩ := h
  refine Glob.covers_runs (fun p hp => ?_) (fun nil => ?_) name
  · obtain ⟨c, hc, rfl⟩ := List.mem_map.1 hp
    rw [stars c hc]
    rfl
  · have : marker.toList = [] := List.map_eq_nil_iff.1 nil
    rw [← String.length_toList, this] at long
    exact absurd long (by simp)

end TreeSift
