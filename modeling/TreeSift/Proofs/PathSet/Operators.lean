/-
  TreeSift.Proofs.PathSet.Operators — the algebra of sets of paths.

  Up to case a set of paths is a finite set of keys, and its operators are those
  of finite sets (`keySet_operators`). The operand is another set of paths, or a
  list, which counts as the set of its paths.

  An operator is first described by the members that it lists, in order; keys and
  spellings are then read off. Which side a member is taken from differs: every
  operator spells as the set on the left does, save the intersection, which
  spells as its operand does.

    §1 Keys         `keySet`, `keySet_kept`, `keySet_left`
    §2 Spellings    `SpelledAs`, `spelledAs_of_toList`
    §3 Operands     `Operand.asPaths?`
    §4 Operators    `union_eq_addAll`, `toList_intersection`, `toList_symmetric`, …
    §5 Comparisons  `within_paths`, `covers_paths`, `isDisjoint_iff`
    §6 Together     `keySet_operators`
-/
import Mathlib.Data.Finset.Card
import Mathlib.Data.Finset.SymmDiff
import TreeSift.PathSet.Algebra
import TreeSift.Proofs.PathSet.Spellings

namespace TreeSift.PathSet

/-! ## §1 Keys -/

/-- The keys of a set, without their order. -/
def keySet (s : PathSet) : Finset String := s.keys.toFinset

theorem mem_keySet {s : PathSet} {key : String} :
    key ∈ s.keySet ↔ ∃ p ∈ s.toList, pathKey p = key := by
  rw [keySet, List.mem_toFinset, keys_eq, List.mem_map]

theorem contains_iff_keySet {s : PathSet} {p : String} :
    s.contains p = true ↔ pathKey p ∈ s.keySet := by
  rw [contains_iff, keySet, List.mem_toFinset]

theorem card_keySet (s : PathSet) : s.keySet.card = s.size := by
  rw [keySet, List.toFinset_card_of_nodup s.keys_nodup]
  simp [size, keys]

theorem keySet_insertAll (s u : PathSet) :
    (s.insertAll u.toList).keySet = s.keySet ∪ u.keySet := by
  ext key
  rw [Finset.mem_union, keySet, keySet, keySet, List.mem_toFinset, List.mem_toFinset,
    List.mem_toFinset, mem_keys_insertAll, keys_eq u]

/-- The members of one set that are in another have the keys that the two share. -/
theorem keySet_kept {r s u : PathSet} (list : r.toList = s.toList.filter u.contains) :
    r.keySet = s.keySet ∩ u.keySet := by
  ext key
  simp only [Finset.mem_inter, mem_keySet (s := r), mem_keySet (s := s), list, List.mem_filter,
    contains_iff_keySet]
  constructor
  · rintro ⟨p, ⟨hp, hu⟩, rfl⟩
    exact ⟨⟨p, hp, rfl⟩, hu⟩
  · rintro ⟨⟨p, hp, rfl⟩, hu⟩
    exact ⟨p, ⟨hp, hu⟩, rfl⟩

/-- The members of one set that are not in another have the keys that the other lacks. -/
theorem keySet_left {r s u : PathSet} (list : r.toList = s.toList.filter fun p => !u.contains p) :
    r.keySet = s.keySet \ u.keySet := by
  ext key
  simp only [Finset.mem_sdiff, mem_keySet (s := r), mem_keySet (s := s), list, List.mem_filter,
    Bool.not_eq_true', ← Bool.not_eq_true, contains_iff_keySet]
  constructor
  · rintro ⟨p, ⟨hp, hu⟩, rfl⟩
    exact ⟨⟨p, hp, rfl⟩, hu⟩
  · rintro ⟨⟨p, hp, rfl⟩, hu⟩
    exact ⟨p, ⟨hp, hu⟩, rfl⟩

/-! ## §2 Spellings -/

/-- A set spells every key that it shares with another as that one does. -/
def SpelledAs (r s : PathSet) : Prop := ∀ p ∈ s.toList, pathKey p ∈ r.keySet → p ∈ r.toList

/-- A set of members of another and of paths that are not in that one spells as it
does. -/
theorem spelledAs_of_toList {r s : PathSet} {kept others : List String}
    (list : r.toList = kept ++ others) (taken : ∀ p ∈ kept, p ∈ s.toList)
    (new : ∀ p ∈ others, s.contains p = false) : r.SpelledAs s := by
  intro p hp hkey
  obtain ⟨q, hq, same⟩ := mem_keySet.1 hkey
  have either := hq
  rw [list, List.mem_append] at either
  rcases either with hkept | hother
  · have spelled : q = p := eq_of_pathKey (taken q hkept) hp same
    exact spelled ▸ hq
  · have there : s.contains q = true := by
      rw [s.contains_congr same]
      exact contains_of_mem hp
    rw [new q hother] at there
    exact absurd there Bool.false_ne_true

theorem spelledAs_of_filter {r s : PathSet} {keep : String → Bool}
    (list : r.toList = s.toList.filter keep) : r.SpelledAs s := by
  have nothing : r.toList = s.toList.filter keep ++ [] := by rw [list, List.append_nil]
  exact spelledAs_of_toList nothing (fun _ hp => List.mem_of_mem_filter hp) (by simp)

/-! ## §3 Operands -/

namespace Operand

/-- The set of paths that an operand counts as: a set of paths itself, a list the
set of its paths. A set in which case counts is none. -/
def asPaths? : Operand → Option PathSet
  | paths s => some s
  | exact _ => none
  | sequence items => some (ofList items)

theorem asSet_of_asPaths? {o : Operand} {u : PathSet} (h : o.asPaths? = some u) :
    o.asSet = paths u := by
  cases o with
  | paths s => exact congrArg paths (Option.some.inj h)
  | exact members => exact absurd h (by simp [asPaths?])
  | sequence items => exact congrArg paths (Option.some.inj h)

theorem ofList_toList_of_asPaths? {o : Operand} {u : PathSet} (h : o.asPaths? = some u) :
    ofList o.toList = u := by
  cases o with
  | paths s =>
    obtain rfl := Option.some.inj h
    exact PathSet.ofList_toList s
  | exact members => exact absurd h (by simp [asPaths?])
  | sequence items => exact Option.some.inj h

theorem mem_keySet_of_asPaths? {o : Operand} {u : PathSet} (h : o.asPaths? = some u)
    {key : String} : key ∈ u.keySet ↔ ∃ p ∈ o.toList, pathKey p = key := by
  rw [← ofList_toList_of_asPaths? h, keySet, List.mem_toFinset, ofList, mem_keys_insertAll,
    List.mem_map]
  simp [keys, empty]

/-- Adding the values of an operand adds the members of the set that it counts as. -/
theorem insertAll_of_asPaths? {o : Operand} {u : PathSet} (h : o.asPaths? = some u)
    (s : PathSet) : s.insertAll o.toList = s.insertAll u.toList := by
  rw [← ofList_toList_of_asPaths? h, insertAll_ofList]

end Operand

/-! ## §4 Operators -/

section Operators

variable {s u : PathSet} {o : Operand}

/-- A union adds the operand to the set. -/
theorem union_eq_addAll (s : PathSet) (o : Operand) : s.union o = s.addAll o := by
  rw [union, ofList_append, ofList_toList, addAll]

theorem toList_intersection (h : o.asPaths? = some u) :
    (s.intersection o).toList = u.toList.filter s.contains := by
  rw [intersection, toList_ofList_filter (fun _ _ => s.contains_congr),
    Operand.ofList_toList_of_asPaths? h]

theorem toList_difference (h : o.asPaths? = some u) :
    (s.difference o).toList = s.toList.filter fun p => !u.contains p := by
  simp only [difference, Operand.asSet_of_asPaths? h, Operand.contains]
  rw [toList_ofList_filter (fun _ _ same => congrArg not (u.contains_congr same)), ofList_toList]

theorem toList_differenceFrom (h : o.asPaths? = some u) :
    (s.differenceFrom o).toList = u.toList.filter fun p => !s.contains p := by
  rw [differenceFrom, Operand.asSet_of_asPaths? h, Operand.toList,
    toList_ofList_filter (fun _ _ same => congrArg not (s.contains_congr same)), ofList_toList]

/-- What is in one of two sets only: the members of the first, then those of the second. -/
theorem toList_symmetric (h : o.asPaths? = some u) :
    (s.symmetric o).toList =
      (s.toList.filter fun p => !u.contains p) ++ u.toList.filter fun p => !s.contains p := by
  have second : (s.differenceFrom o.asSet).toList = u.toList.filter fun p => !s.contains p := by
    rw [Operand.asSet_of_asPaths? h]
    exact toList_differenceFrom rfl
  have first : (s.difference o.asSet).toList = s.toList.filter fun p => !u.contains p := by
    rw [Operand.asSet_of_asPaths? h]
    exact toList_difference rfl
  -- What is not in the first set is not in what is left of it.
  have new : ∀ p ∈ (s.differenceFrom o.asSet).toList,
      (!(s.difference o.asSet).contains p) = true := by
    intro p hp
    rw [second, List.mem_filter, Bool.not_eq_true'] at hp
    rw [Bool.not_eq_true', ← Bool.not_eq_true, contains_iff_keySet, keySet_left first,
      Finset.mem_sdiff, ← contains_iff_keySet, hp.2]
    simp
  rw [symmetric, union_eq_addAll, addAll, Operand.toList, toList_insertAll,
    firstSpellings_toList, List.filter_eq_self.2 new, first, second]

/-- Removing the values of an operand is what is left of a difference. -/
theorem removeAll_eq_difference (h : o.asPaths? = some u) : s.removeAll o = s.difference o := by
  apply eq_of_toList
  rw [removeAll, toList_eraseAll, Operand.ofList_toList_of_asPaths? h, toList_difference h]

/-- Retaining what an operand has leaves members of the set, not of the operand. -/
theorem toList_retainAll (h : o.asPaths? = some u) :
    (s.retainAll o).toList = s.toList.filter u.contains := by
  rw [retainAll, toList_eraseAll, ofList_toList]
  refine List.filter_congr fun p hp => ?_
  rw [Bool.eq_iff_iff, Bool.not_eq_true', ← Bool.not_eq_true, contains_iff_keySet,
    contains_iff_keySet, keySet_left (toList_difference h), Finset.mem_sdiff, not_and_not_right]
  exact ⟨fun hu => hu (contains_iff_keySet.1 (contains_of_mem hp)), fun hu _ => hu⟩

/-- Toggling paths of different keys takes out those that are there and appends the
others. -/
theorem toList_foldl_toggle (s : PathSet) {paths : List String}
    (apart : (paths.map pathKey).Nodup) :
    (paths.foldl toggle s).toList =
      (s.toList.filter fun p => !(ofList paths).contains p) ++
        paths.filter fun p => !s.contains p := by
  have asked : ∀ qs p, (!(ofList qs).contains p) = decide (pathKey p ∉ qs.map pathKey) := by
    intro qs p
    rw [Bool.eq_iff_iff, Bool.not_eq_true', ← Bool.not_eq_true, contains_ofList,
      decide_eq_true_eq]
  simp only [asked]
  clear asked
  induction paths generalizing s with
  | nil => simp
  | cons q rest ih =>
    obtain ⟨fresh, apart⟩ := List.nodup_cons.1 apart
    have other : ∀ p ∈ rest, pathKey p ≠ pathKey q := fun p hp same =>
      fresh (same ▸ List.mem_map_of_mem hp)
    rw [List.foldl_cons, ih _ apart, toggle]
    cases hq : s.contains q with
    | true =>
      have later : (rest.filter fun p => !(s.erase q).contains p) =
          rest.filter fun p => !s.contains p := by
        refine List.filter_congr fun p hp => ?_
        simp [contains_erase, other p hp]
      rw [if_pos rfl, toList_erase, List.filter_filter, later,
        List.filter_cons_of_neg (by simp [hq])]
      congr 1
      refine List.filter_congr fun p _ => ?_
      by_cases same : pathKey p = pathKey q <;> simp [same]
    | false =>
      have later : (rest.filter fun p => !(s.insert q).contains p) =
          rest.filter fun p => !s.contains p := by
        refine List.filter_congr fun p hp => ?_
        simp [contains_insert, other p hp]
      have kept : (s.toList.filter fun p => decide (pathKey p ∉ (q :: rest).map pathKey)) =
          s.toList.filter fun p => decide (pathKey p ∉ rest.map pathKey) := by
        refine List.filter_congr fun p hp => ?_
        have absent : pathKey p ≠ pathKey q := by
          intro same
          rw [← s.contains_congr same, contains_of_mem hp] at hq
          exact absurd hq (by simp)
        simp [absent]
      have new : ([q].filter fun p => decide (pathKey p ∉ rest.map pathKey)) = [q] :=
        List.filter_cons_of_pos (by simpa using other)
      have head : ((q :: rest).filter fun p => !s.contains p) =
          q :: rest.filter fun p => !s.contains p := List.filter_cons_of_pos (by simp [hq])
      rw [if_neg (by simp), toList_insert, hq, if_neg (by simp), List.filter_append, later, kept,
        new, head, List.append_assoc, List.singleton_append]

/-- Toggling what an operand has is taking what is in one of the two only. -/
theorem toggleAll_eq_symmetric (h : o.asPaths? = some u) : s.toggleAll o = s.symmetric o := by
  have apart : (u.toList.map pathKey).Nodup := by
    rw [← keys_eq]
    exact u.keys_nodup
  apply eq_of_toList
  rw [toggleAll, Operand.asSet_of_asPaths? h, Operand.toList, toList_foldl_toggle s apart,
    ofList_toList, toList_symmetric h]

theorem keySet_union (h : o.asPaths? = some u) : (s.union o).keySet = s.keySet ∪ u.keySet := by
  rw [union_eq_addAll, addAll, Operand.insertAll_of_asPaths? h, keySet_insertAll]

theorem keySet_unionFrom (h : o.asPaths? = some u) :
    (s.unionFrom o).keySet = u.keySet ∪ s.keySet := by
  cases o with
  | paths v =>
    obtain rfl := Option.some.inj h
    exact keySet_union rfl
  | exact members => exact absurd h (by simp [Operand.asPaths?])
  | sequence items =>
    show (s.union (.sequence items)).keySet = u.keySet ∪ s.keySet
    rw [keySet_union h, Finset.union_comm]

theorem keySet_intersection (h : o.asPaths? = some u) :
    (s.intersection o).keySet = s.keySet ∩ u.keySet := by
  rw [keySet_kept (toList_intersection h), Finset.inter_comm]

theorem keySet_intersectionFrom (h : o.asPaths? = some u) :
    (s.intersectionFrom o).keySet = u.keySet ∩ s.keySet := by
  cases o with
  | paths v =>
    obtain rfl := Option.some.inj h
    exact keySet_intersection rfl
  | exact members => exact absurd h (by simp [Operand.asPaths?])
  | sequence items =>
    show (s.intersection (.sequence items)).keySet = u.keySet ∩ s.keySet
    rw [keySet_intersection h, Finset.inter_comm]

theorem keySet_symmetric (h : o.asPaths? = some u) :
    (s.symmetric o).keySet = symmDiff s.keySet u.keySet := by
  have first := keySet_left (toList_difference (s := s) h)
  have second := keySet_left (toList_differenceFrom (s := s) h)
  ext key
  rw [Finset.mem_symmDiff, ← Finset.mem_sdiff, ← Finset.mem_sdiff, ← first, ← second,
    mem_keySet, mem_keySet, mem_keySet, toList_symmetric h, toList_difference h,
    toList_differenceFrom h]
  simp only [List.mem_append, or_and_right, exists_or]

theorem keySet_symmetricFrom (h : o.asPaths? = some u) :
    (s.symmetricFrom o).keySet = symmDiff u.keySet s.keySet := by
  cases o with
  | paths v =>
    obtain rfl := Option.some.inj h
    exact keySet_symmetric rfl
  | exact members => exact absurd h (by simp [Operand.asPaths?])
  | sequence items =>
    show (s.symmetric (.sequence items)).keySet = symmDiff u.keySet s.keySet
    rw [keySet_symmetric h, symmDiff_comm]

end Operators

/-! ## §5 Comparisons -/

section Comparisons

variable {s v : PathSet}

theorem size_paths (v : PathSet) : (Operand.paths v).size = v.size := by
  simp [Operand.size, Operand.toList, toList, size]

theorem all_contains_iff : s.toList.all v.contains = true ↔ s.keySet ⊆ v.keySet := by
  simp only [List.all_eq_true, Finset.subset_iff, mem_keySet (s := s), contains_iff_keySet]
  constructor
  · rintro h key ⟨p, hp, rfl⟩
    exact h p hp
  · exact fun h p hp => h ⟨p, hp, rfl⟩

/-- The sizes are compared first, but decide nothing: a part is no larger. -/
theorem within_paths : s.within (.paths v) = decide (s.keySet ⊆ v.keySet) := by
  rw [Bool.eq_iff_iff, within, Bool.and_eq_true, decide_eq_true_iff, decide_eq_true_iff,
    size_paths, ← card_keySet, ← card_keySet]
  exact ⟨fun h => all_contains_iff.1 h.2,
    fun h => ⟨Finset.card_le_card h, all_contains_iff.2 h⟩⟩

/-- A set covers another if the other is within it. -/
theorem covers_paths : s.covers (.paths v) = v.within (.paths s) := by
  rw [covers, within, size_paths, size_paths]
  rfl

/-- A part with as many keys is the whole. -/
theorem equals_paths : s.equals (.paths v) = decide (s.keySet = v.keySet) := by
  rw [Bool.eq_iff_iff, equals, within_paths, size_paths, ← card_keySet, ← card_keySet]
  simp only [Operand.isSet, Bool.true_and, Bool.and_eq_true, beq_iff_eq, decide_eq_true_iff]
  constructor
  · rintro ⟨counted, part⟩
    exact Finset.eq_of_subset_of_card_le part counted.ge
  · rintro same
    rw [same]
    exact ⟨rfl, subset_rfl⟩

theorem le?_paths : s.le? (.paths v) = some (decide (s.keySet ⊆ v.keySet)) := by
  rw [le?, within_paths]
  rfl

/-- A part with fewer keys is a proper one. -/
theorem lt?_paths : s.lt? (.paths v) = some (decide (s.keySet ⊂ v.keySet)) := by
  have proper : (decide (s.size < (Operand.paths v).size) && s.within (.paths v)) =
      decide (s.keySet ⊂ v.keySet) := by
    rw [Bool.eq_iff_iff, within_paths, size_paths, ← card_keySet, ← card_keySet]
    simp only [Bool.and_eq_true, decide_eq_true_iff]
    constructor
    · rintro ⟨fewer, part⟩
      exact part.ssubset_of_ne fun same => absurd fewer (by simp [same])
    · exact fun h => ⟨Finset.card_lt_card h, h.subset⟩
  rw [lt?, proper]
  rfl

theorem ge?_paths : s.ge? (.paths v) = v.le? (.paths s) := by
  rw [ge?, le?, covers_paths]
  rfl

theorem gt?_paths : s.gt? (.paths v) = v.lt? (.paths s) := by
  rw [gt?, lt?, covers_paths, size_paths, size_paths]
  rfl

theorem isDisjoint_eq {u : PathSet} {o : Operand} (h : o.asPaths? = some u) :
    s.isDisjoint o = decide (Disjoint s.keySet u.keySet) := by
  rw [Bool.eq_iff_iff, decide_eq_true_iff, Finset.disjoint_right, isDisjoint, List.all_eq_true]
  simp only [Operand.mem_keySet_of_asPaths? h, Bool.not_eq_true', ← Bool.not_eq_true,
    contains_iff_keySet]
  constructor
  · rintro apart key ⟨p, hp, rfl⟩
    exact apart p hp
  · exact fun apart p hp => apart ⟨p, hp, rfl⟩

end Comparisons

/-! ## §6 Together -/

/-- **The algebra of sets of paths.** With an operand that is a set of paths or a list,
the keys of a union, an intersection, a difference and a symmetric difference are
those of the finite sets of keys, whichever side the operand is on, and an operator
in place leaves the keys of the operator that gives a new set. Disjointness and the
comparisons of two sets are decided by the keys. Every operator with the set on the
left, in place or not, spells the keys of the set as it does; only an intersection
that gives a new set spells them as the operand does, a list by its first spellings. -/
theorem keySet_operators (s : PathSet) {o : Operand} {u : PathSet} (h : o.asPaths? = some u) :
    ((s.union o).keySet = s.keySet ∪ u.keySet ∧
      (s.intersection o).keySet = s.keySet ∩ u.keySet ∧
      (s.difference o).keySet = s.keySet \ u.keySet ∧
      (s.symmetric o).keySet = symmDiff s.keySet u.keySet) ∧
    ((s.unionFrom o).keySet = u.keySet ∪ s.keySet ∧
      (s.intersectionFrom o).keySet = u.keySet ∩ s.keySet ∧
      (s.differenceFrom o).keySet = u.keySet \ s.keySet ∧
      (s.symmetricFrom o).keySet = symmDiff u.keySet s.keySet) ∧
    ((s.addAll o).keySet = (s.union o).keySet ∧
      (s.retainAll o).keySet = (s.intersection o).keySet ∧
      (s.removeAll o).keySet = (s.difference o).keySet ∧
      (s.toggleAll o).keySet = (s.symmetric o).keySet) ∧
    s.isDisjoint o = decide (Disjoint s.keySet u.keySet) ∧
    (∀ v, o = .paths v →
      s.equals o = decide (s.keySet = v.keySet) ∧
      s.le? o = some (decide (s.keySet ⊆ v.keySet)) ∧
      s.lt? o = some (decide (s.keySet ⊂ v.keySet)) ∧
      s.ge? o = some (decide (v.keySet ⊆ s.keySet)) ∧
      s.gt? o = some (decide (v.keySet ⊂ s.keySet))) ∧
    (∀ r ∈ [s.union o, s.difference o, s.symmetric o,
        s.addAll o, s.removeAll o, s.retainAll o, s.toggleAll o], r.SpelledAs s) ∧
    (s.intersection o).SpelledAs u := by
  have union : (s.union o).SpelledAs s := by
    refine spelledAs_of_toList (toList_insertAll s o.toList ▸ congrArg toList (union_eq_addAll s o))
      (fun _ hp => hp) fun p hp => ?_
    simpa using (List.mem_filter.1 hp).2
  have difference : (s.difference o).SpelledAs s := spelledAs_of_filter (toList_difference h)
  have symmetric : (s.symmetric o).SpelledAs s := by
    refine spelledAs_of_toList (toList_symmetric h) (fun _ hp => List.mem_of_mem_filter hp)
      fun p hp => ?_
    simpa using (List.mem_filter.1 hp).2
  have retained : (s.retainAll o).SpelledAs s := spelledAs_of_filter (toList_retainAll h)
  refine ⟨⟨keySet_union h, keySet_intersection h, keySet_left (toList_difference h),
      keySet_symmetric h⟩,
    ⟨keySet_unionFrom h, keySet_intersectionFrom h, keySet_left (toList_differenceFrom h),
      keySet_symmetricFrom h⟩,
    ⟨?_, ?_, ?_, ?_⟩, isDisjoint_eq h, ?_, ?_, spelledAs_of_filter (toList_intersection h)⟩
  · rw [union_eq_addAll]
  · rw [keySet_kept (toList_retainAll h), keySet_intersection h]
  · rw [removeAll_eq_difference h]
  · rw [toggleAll_eq_symmetric h]
  · rintro v rfl
    exact ⟨equals_paths, le?_paths, lt?_paths, ge?_paths.trans le?_paths,
      gt?_paths.trans lt?_paths⟩
  · rw [removeAll_eq_difference h, toggleAll_eq_symmetric h, ← union_eq_addAll]
    simp [union, difference, symmetric, retained]

/-- Two spellings of one key in a list, of which the first counts. -/
theorem operators_respelled :
    (Operand.sequence ["/STRASSE", "/c", "/straße"]).asPaths? =
      some (ofList ["/STRASSE", "/c", "/straße"]) ∧
    ((ofList ["/Straße", "/b"]).symmetric (.sequence ["/STRASSE", "/c", "/straße"])).keySet =
      symmDiff (ofList ["/Straße", "/b"]).keySet (ofList ["/STRASSE", "/c", "/straße"]).keySet ∧
    "/Straße" ∈ ((ofList ["/Straße", "/b"]).retainAll
      (.sequence ["/STRASSE", "/c", "/straße"])).toList ∧
    "/STRASSE" ∈ ((ofList ["/Straße", "/b"]).intersection
      (.sequence ["/STRASSE", "/c", "/straße"])).toList := by
  obtain ⟨⟨-, -, -, symmetric⟩, -, -, -, -, kept, taken⟩ :=
    keySet_operators (ofList ["/Straße", "/b"]) (o := .sequence ["/STRASSE", "/c", "/straße"]) rfl
  refine ⟨rfl, symmetric, kept _ (by simp) _ ?_ ?_, taken _ ?_ ?_⟩
  all_goals decide +kernel

end TreeSift.PathSet
