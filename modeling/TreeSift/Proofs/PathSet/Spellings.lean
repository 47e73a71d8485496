/-
  TreeSift.Proofs.PathSet.Spellings — first spellings, once and again.

  To leave out of a list what an earlier path equals up to case is something that
  can be done twice, before or after a choice by keys, and to a part of a list
  before it is put together with others: the first spellings stay the same. A set
  of paths has been through it, so making a set of its members gives it back
  (`ofList_toList`), and adding the members of the set of a list is adding the
  list (`insertAll_ofList`).

    §1 Lists  `firstSpellings_filter`, `firstSpellings_firstSpellings`
    §2 Sets   `ofList_toList`, `insertAll_ofList`, `toList_eraseAll`
-/
import Mathlib.Data.List.Nodup
import TreeSift.Proofs.PathSet.Behind

namespace TreeSift

/-! ## §1 Lists -/

/-- A choice that asks for keys only can be made before or after. -/
theorem firstSpellings_filter {keep : String → Bool}
    (byKey : ∀ p q, pathKey p = pathKey q → keep p = keep q) (paths : List String) :
    firstSpellings (paths.filter keep) = (firstSpellings paths).filter keep := by
  induction paths with
  | nil => rfl
  | cons p rest ih =>
    rw [firstSpellings]
    cases hp : keep p with
    | true =>
      rw [List.filter_cons_of_pos hp, List.filter_cons_of_pos hp, firstSpellings, ih,
        List.filter_filter, List.filter_filter]
      simp only [Bool.and_comm]
    | false =>
      have dropped : ¬ keep p = true := by simp [hp]
      rw [List.filter_cons_of_neg dropped, List.filter_cons_of_neg dropped, ih,
        List.filter_filter]
      refine List.filter_congr fun q _ => ?_
      -- What is kept has another key than what is not.
      have apart : keep q = true → pathKey q ≠ pathKey p := by
        intro hq same
        rw [byKey q p same, hp] at hq
        exact Bool.false_ne_true hq
      cases hq : keep q with
      | true => simpa using apart hq
      | false => rfl

theorem firstSpellings_nodup (paths : List String) :
    ((firstSpellings paths).map pathKey).Nodup := by
  rw [← PathSet.toList_ofList, ← PathSet.keys_eq]
  exact PathSet.keys_nodup _

/-- Among first spellings all are first spellings. -/
theorem firstSpellings_firstSpellings (paths : List String) :
    firstSpellings (firstSpellings paths) = firstSpellings paths :=
  firstSpellings_eq_self (firstSpellings_nodup paths)

/-! ## §2 Sets -/

namespace PathSet

/-- Whether a path is in a set depends on its key only. -/
theorem contains_congr (s : PathSet) {p q : String} (same : pathKey p = pathKey q) :
    s.contains p = s.contains q := by
  rw [contains, contains, same]

/-- Two members with the same key are the same member. -/
theorem eq_of_pathKey {s : PathSet} {p q : String} (hp : p ∈ s.toList) (hq : q ∈ s.toList)
    (same : pathKey p = pathKey q) : p = q := by
  have keys := s.keys_nodup
  rw [keys_eq] at keys
  exact List.inj_on_of_nodup_map keys hp hq same

theorem contains_of_mem {s : PathSet} {p : String} (hp : p ∈ s.toList) : s.contains p = true := by
  rw [contains_iff, keys_eq]
  exact List.mem_map_of_mem hp

theorem contains_ofList {paths : List String} {p : String} :
    (ofList paths).contains p = true ↔ pathKey p ∈ paths.map pathKey := by
  rw [contains_iff, ofList, mem_keys_insertAll]
  simp [keys, empty]

theorem firstSpellings_toList (s : PathSet) : firstSpellings s.toList = s.toList := by
  apply firstSpellings_eq_self
  rw [← keys_eq]
  exact s.keys_nodup

/-- The set of the members of a set is that set. -/
theorem ofList_toList (s : PathSet) : ofList s.toList = s := by
  apply eq_of_toList
  rw [toList_ofList, firstSpellings_toList]

theorem ofList_append (paths more : List String) :
    ofList (paths ++ more) = (ofList paths).insertAll more :=
  insertAll_append empty paths more

/-- Later spellings of what a list has make no difference to a set. -/
theorem insertAll_ofList (s : PathSet) (paths : List String) :
    s.insertAll (ofList paths).toList = s.insertAll paths := by
  apply eq_of_toList
  rw [toList_insertAll, toList_insertAll, toList_ofList, firstSpellings_firstSpellings]

/-- A choice by keys among a list is the same choice among its set. -/
theorem toList_ofList_filter {keep : String → Bool}
    (byKey : ∀ p q, pathKey p = pathKey q → keep p = keep q) (paths : List String) :
    (ofList (paths.filter keep)).toList = (ofList paths).toList.filter keep := by
  rw [toList_ofList, toList_ofList, firstSpellings_filter byKey]

/-- Removing paths leaves the members that are none of them, in any spelling. -/
theorem toList_eraseAll (s : PathSet) (paths : List String) :
    (s.eraseAll paths).toList = s.toList.filter fun p => !(ofList paths).contains p := by
  have asked : ∀ p, (!(ofList paths).contains p) = decide (pathKey p ∉ paths.map pathKey) := by
    intro p
    rw [Bool.eq_iff_iff, Bool.not_eq_true', ← Bool.not_eq_true, contains_ofList,
      decide_eq_true_eq]
  simp only [asked]
  clear asked
  induction paths generalizing s with
  | nil => simp [eraseAll]
  | cons q rest ih =>
    rw [eraseAll, List.foldl_cons, ← eraseAll, ih, toList_erase, List.filter_filter]
    refine List.filter_congr fun p _ => ?_
    by_cases same : pathKey p = pathKey q <;> simp [same]

end PathSet

end TreeSift
