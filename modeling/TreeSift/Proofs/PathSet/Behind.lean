/-
  TreeSift.Proofs.PathSet.Behind — sets of paths behind a common beginning.

  Case folding goes character by character, so two paths with the same beginning
  have the same key exactly if what comes after it has (`pathKey_append`). What a
  set makes of paths therefore does not depend on a beginning that all of them
  share: it can be put before them first or last (`behind_ofList`,
  `behind_insertAll`).

    §1 Keys    `pathKey_append`, `firstSpellings_append`
    §2 Sets    `PathSet.behind`, `behind_ofList`, `behind_insertAll`
-/
import TreeSift.Proofs.PathSet.Gathering

namespace TreeSift

/-! ## §1 Keys -/

theorem Text.fold_append (a b : String) : fold (a ++ b) = fold a ++ fold b := by
  simp [fold]

/-- Paths with the same beginning are told apart by what comes after it. -/
theorem pathKey_append {front a b : String} :
    pathKey (front ++ a) = pathKey (front ++ b) ↔ pathKey a = pathKey b := by
  rw [pathKey, pathKey, Text.fold_append, Text.fold_append]
  exact String.append_right_inj _

/-- Of paths with the same beginning, those are first spellings that are so without it. -/
theorem firstSpellings_append (front : String) (paths : List String) :
    firstSpellings (paths.map (front ++ ·)) = (firstSpellings paths).map (front ++ ·) := by
  induction paths with
  | nil => rfl
  | cons p rest ih =>
    rw [List.map_cons, firstSpellings, firstSpellings, List.map_cons, ih, List.filter_map]
    have same : (fun q => decide (pathKey q ≠ pathKey (front ++ p))) ∘ (front ++ ·) =
        fun q => decide (pathKey q ≠ pathKey p) := by
      funext q
      simp [pathKey_append]
    rw [same]

theorem firstSpellings_eq_self {paths : List String} (apart : (paths.map pathKey).Nodup) :
    firstSpellings paths = paths := by
  induction paths with
  | nil => rfl
  | cons p rest ih =>
    obtain ⟨fresh, apart⟩ := List.nodup_cons.1 apart
    rw [firstSpellings, ih apart, List.filter_eq_self.2]
    intro q hq
    have other : pathKey q ≠ pathKey p := fun same => fresh (same ▸ List.mem_map_of_mem hq)
    simpa using other

/-! ## §2 Sets -/

namespace PathSet

/-- A set is what it lists. -/
theorem eq_of_toList {s u : PathSet} (h : s.toList = u.toList) : s = u := by
  have inj : Function.Injective Member.path := by
    rintro ⟨p, key, rfl⟩ ⟨q, key', rfl⟩ same
    cases same
    rfl
  obtain ⟨members, distinct⟩ := s
  obtain ⟨others, distinct'⟩ := u
  obtain rfl : members = others := (List.map_inj_right fun _ _ same => inj same).1 h
  rfl

/-- A set of paths, each behind the same beginning. -/
def behind (s : PathSet) (front : String) : PathSet := ofList (s.toList.map (front ++ ·))

theorem toList_behind (s : PathSet) (front : String) :
    (s.behind front).toList = s.toList.map (front ++ ·) := by
  have apart : (s.toList.map pathKey).Nodup := by
    rw [← keys_eq]
    exact s.keys_nodup
  rw [behind, toList_ofList, firstSpellings_append, firstSpellings_eq_self apart]

/-- Behind a beginning, a set has what it has without. -/
theorem contains_behind (s : PathSet) (front path : String) :
    (s.behind front).contains (front ++ path) = s.contains path := by
  rw [Bool.eq_iff_iff, contains_iff, contains_iff, keys_eq, toList_behind, keys_eq]
  simp [pathKey_append]

theorem behind_behind (s : PathSet) (inner outer : String) :
    (s.behind inner).behind outer = s.behind (outer ++ inner) := by
  apply eq_of_toList
  rw [toList_behind, toList_behind, toList_behind, List.map_map]
  exact List.map_congr_left fun p _ => String.append_assoc.symm

theorem behind_ofList (paths : List String) (front : String) :
    (ofList paths).behind front = ofList (paths.map (front ++ ·)) := by
  apply eq_of_toList
  rw [toList_behind, toList_ofList, toList_ofList, firstSpellings_append]

/-- A beginning can be put before the paths of a set and before those that are added
to it, or before all of them in the end. -/
theorem behind_insertAll (s : PathSet) (paths : List String) (front : String) :
    (s.insertAll paths).behind front = (s.behind front).insertAll (paths.map (front ++ ·)) := by
  apply eq_of_toList
  rw [toList_behind, toList_insertAll, toList_insertAll, toList_behind, firstSpellings_append,
    List.map_append, List.filter_map]
  have same : (fun p => !(s.behind front).contains p) ∘ (front ++ ·) = fun p => !s.contains p := by
    funext p
    simp [contains_behind]
  rw [same]

end PathSet

end TreeSift
