/-
  TreeSift.Proofs.PathSet.PlainSets — operators with a set in which case counts.

  Where a set of paths asks itself for membership, case does not count; where it asks a
  plain set, only the same spelling does. A union asks for nothing. An intersection asks
  the set of paths, and a removal in place does too; retaining in place and a difference
  ask the plain set. So what an operator in place leaves and what the other one gives have
  the same keys just where the plain set spells as the set does (`Echoes`), and toggling
  counts the spellings of a key besides (`operators_with_plain_set`).

    §1 Members    `toList_difference_exact`, `toList_retainAll_exact`
    §2 Keys       `keySet_intersection_exact`, `keySet_removeAll_exact`
    §3 Toggling   `mem_keySet_foldl_toggle`, `spellings`
    §4 Agreement  `Echoes`, `operators_with_plain_set`, `operators_disagree`
-/
import Mathlib.Algebra.Ring.Parity
import TreeSift.Proofs.PathSet.Operators

namespace TreeSift.PathSet

variable {s : PathSet} {members : List String} {key : String}

/-! ## §1 Members -/

/-- Some members of a set are a set as they stand. -/
theorem toList_ofList_filter_toList (s : PathSet) (keep : String → Bool) :
    (ofList (s.toList.filter keep)).toList = s.toList.filter keep := by
  rw [toList_ofList]
  refine firstSpellings_eq_self (List.Nodup.sublist (List.filter_sublist.map pathKey) ?_)
  rw [← keys_eq]
  exact s.keys_nodup

/-- Of some members of a set each has the key of no other. -/
theorem pathKey_mem_keySet_filter {r : PathSet} {keep : String → Bool}
    (list : r.toList = s.toList.filter keep) {p : String} (hp : p ∈ s.toList) :
    pathKey p ∈ r.keySet ↔ keep p = true := by
  rw [mem_keySet, list]
  constructor
  · rintro ⟨q, hq, same⟩
    obtain ⟨hq, kept⟩ := List.mem_filter.1 hq
    exact eq_of_pathKey hq hp same ▸ kept
  · intro kept
    exact ⟨p, List.mem_filter.2 ⟨hp, kept⟩, rfl⟩

/-- Some members of a set have keys of the set. -/
theorem keySet_subset_of_filter {r : PathSet} {keep : String → Bool}
    (list : r.toList = s.toList.filter keep) : r.keySet ⊆ s.keySet := by
  intro key hk
  obtain ⟨p, hp, rfl⟩ := mem_keySet.1 hk
  rw [list] at hp
  exact mem_keySet.2 ⟨p, List.mem_of_mem_filter hp, rfl⟩

/-- A difference with a plain set keeps the members that are not literally in it. -/
theorem toList_difference_exact (s : PathSet) (members : List String) :
    (s.difference (.exact members)).toList = s.toList.filter fun p => p ∉ members := by
  show (ofList (s.toList.filter fun p => !members.contains p)).toList = _
  rw [toList_ofList_filter_toList]
  exact List.filter_congr fun p _ => by simp

/-- Retaining what a plain set has keeps the members that are literally in it. -/
theorem toList_retainAll_exact (s : PathSet) (members : List String) :
    (s.retainAll (.exact members)).toList = s.toList.filter fun p => p ∈ members := by
  rw [retainAll, toList_eraseAll, ofList_toList]
  refine List.filter_congr fun p hp => ?_
  have asked : (s.difference (.exact members)).contains p = true ↔ p ∉ members := by
    rw [contains_iff_keySet, pathKey_mem_keySet_filter (toList_difference_exact s members) hp,
      decide_eq_true_iff]
  rw [Bool.eq_iff_iff, Bool.not_eq_true', ← Bool.not_eq_true, asked, decide_eq_true_iff, not_not]

/-! ## §2 Keys -/

theorem mem_keySet_ofList {paths : List String} :
    key ∈ (ofList paths).keySet ↔ ∃ p ∈ paths, pathKey p = key :=
  Operand.mem_keySet_of_asPaths? (o := .sequence paths) rfl

/-- That a plain set has no member twice makes no difference to its keys. -/
theorem keySet_ofList_eraseDups (members : List String) :
    (ofList members.eraseDups).keySet = (ofList members).keySet := by
  ext key
  simp only [mem_keySet_ofList, List.mem_eraseDups]

theorem keySet_addAll_exact (s : PathSet) (members : List String) :
    (s.addAll (.exact members)).keySet = s.keySet ∪ (ofList members).keySet := by
  rw [addAll, Operand.toList, ← insertAll_ofList, keySet_insertAll, keySet_ofList_eraseDups]

theorem keySet_removeAll_exact (s : PathSet) (members : List String) :
    (s.removeAll (.exact members)).keySet = s.keySet \ (ofList members).keySet := by
  rw [removeAll, Operand.toList, keySet_left (toList_eraseAll s members.eraseDups),
    keySet_ofList_eraseDups]

theorem keySet_intersection_exact (s : PathSet) (members : List String) :
    (s.intersection (.exact members)).keySet = s.keySet ∩ (ofList members).keySet := by
  have list : (s.intersection (.exact members)).toList =
      (ofList members.eraseDups).toList.filter s.contains :=
    toList_ofList_filter (fun _ _ => s.contains_congr) _
  rw [keySet_kept list, keySet_ofList_eraseDups, Finset.inter_comm]

theorem keySet_differenceFrom_exact (s : PathSet) (members : List String) :
    (s.differenceFrom (.exact members)).keySet = (ofList members).keySet \ s.keySet := by
  have list : (s.differenceFrom (.exact members)).toList =
      (ofList members.eraseDups).toList.filter fun p => !s.contains p :=
    toList_ofList_filter (fun _ _ same => congrArg not (s.contains_congr same)) _
  rw [keySet_left list, keySet_ofList_eraseDups]

/-- What is in one of the two only has the keys of the two differences. -/
theorem keySet_symmetric_exact (s : PathSet) (members : List String) :
    (s.symmetric (.exact members)).keySet =
      (s.difference (.exact members)).keySet ∪ ((ofList members).keySet \ s.keySet) := by
  rw [← keySet_differenceFrom_exact]
  exact keySet_union rfl

/-! ## §3 Toggling -/

theorem mem_keySet_toggle (s : PathSet) (path key : String) :
    key ∈ (s.toggle path).keySet ↔ (key = pathKey path ↔ key ∉ s.keySet) := by
  unfold toggle keySet
  split
  · rename_i there
    rw [contains_iff] at there
    rw [List.mem_toFinset, List.mem_toFinset, keys_erase, List.mem_filter, bne_iff_ne]
    by_cases same : key = pathKey path
    · simp [same, there]
    · simp [same]
  · rename_i absent
    rw [contains_iff] at absent
    rw [List.mem_toFinset, List.mem_toFinset, mem_keys_insert]
    by_cases same : key = pathKey path
    · simp [same, absent]
    · simp [same]

/-- Paths that are toggled change whether a key is there as often as they have it. -/
theorem mem_keySet_foldl_toggle (s : PathSet) (paths : List String) (key : String) :
    key ∈ (paths.foldl toggle s).keySet ↔
      (key ∈ s.keySet ↔ Even (paths.countP fun p => pathKey p = key)) := by
  induction paths generalizing s with
  | nil => simp
  | cons p rest ih =>
    rw [List.foldl_cons, ih, mem_keySet_toggle, List.countP_cons]
    by_cases same : pathKey p = key
    · rw [if_pos (by simpa using same), Nat.even_add_one]
      simp only [same, true_iff]
      exact not_iff_comm.trans iff_comm
    · rw [if_neg (by simpa using same), Nat.add_zero]
      simp only [Ne.symm same, false_iff, not_not]

/-- How many members of a plain set have a key. -/
def spellings (members : List String) (key : String) : Nat :=
  members.eraseDups.countP fun p => pathKey p = key

theorem spellings_pos_iff : 0 < spellings members key ↔ key ∈ (ofList members).keySet := by
  rw [spellings, List.countP_pos_iff, mem_keySet_ofList]
  simp

theorem mem_keySet_toggleAll_exact (s : PathSet) (members : List String) (key : String) :
    key ∈ (s.toggleAll (.exact members)).keySet ↔
      (key ∈ s.keySet ↔ Even (spellings members key)) :=
  mem_keySet_foldl_toggle s members.eraseDups key

/-! ## §4 Agreement -/

/-- A plain set echoes a set of paths: what it has of it in some spelling it has in the
spelling of the set. -/
def Echoes (members : List String) (s : PathSet) : Prop :=
  ∀ p ∈ s.toList, pathKey p ∈ (ofList members).keySet → p ∈ members

theorem mem_keySet_of_mem {p : String} (hp : p ∈ s.toList) : pathKey p ∈ s.keySet :=
  mem_keySet.2 ⟨p, hp, rfl⟩

/-- Keys of members of a set are compared member by member. -/
theorem keys_eq_iff {K L : Finset String} (hK : K ⊆ s.keySet) (hL : L ⊆ s.keySet) :
    K = L ↔ ∀ p ∈ s.toList, pathKey p ∈ K ↔ pathKey p ∈ L := by
  constructor
  · rintro rfl p _
    exact Iff.rfl
  · intro same
    ext key
    constructor
    · intro hk
      obtain ⟨p, hp, rfl⟩ := mem_keySet.1 (hK hk)
      exact (same p hp).1 hk
    · intro hk
      obtain ⟨p, hp, rfl⟩ := mem_keySet.1 (hL hk)
      exact (same p hp).2 hk

theorem echoes_iff : Echoes members s ↔
    ∀ p ∈ s.toList, p ∈ members ↔ pathKey p ∈ (ofList members).keySet :=
  forall₂_congr fun p _ => ⟨fun h => ⟨fun hp => mem_keySet_ofList.2 ⟨p, hp, rfl⟩, h⟩, Iff.mpr⟩

/-- Retaining and intersecting agree where the plain set echoes the set. -/
theorem keySet_retainAll_exact_iff (s : PathSet) (members : List String) :
    (s.retainAll (.exact members)).keySet = (s.intersection (.exact members)).keySet ↔
      Echoes members s := by
  have kept := toList_retainAll_exact s members
  rw [keySet_intersection_exact, keys_eq_iff (keySet_subset_of_filter kept)
    Finset.inter_subset_left, echoes_iff]
  refine forall₂_congr fun p hp => ?_
  rw [pathKey_mem_keySet_filter kept hp, decide_eq_true_iff, Finset.mem_inter,
    and_iff_right (mem_keySet_of_mem hp)]

/-- Removing in place and a difference agree where the plain set echoes the set. -/
theorem keySet_removeAll_exact_iff (s : PathSet) (members : List String) :
    (s.removeAll (.exact members)).keySet = (s.difference (.exact members)).keySet ↔
      Echoes members s := by
  have left := toList_difference_exact s members
  rw [keySet_removeAll_exact, keys_eq_iff Finset.sdiff_subset (keySet_subset_of_filter left),
    echoes_iff]
  refine forall₂_congr fun p hp => ?_
  rw [pathKey_mem_keySet_filter left hp, decide_eq_true_iff, Finset.mem_sdiff,
    and_iff_right (mem_keySet_of_mem hp), not_iff_not]
  exact iff_comm

/-- At a member of the set, toggling counts spellings, and the symmetric difference asks
for the member's own. -/
theorem toggleAll_agrees_at_member {p : String} (hp : p ∈ s.toList) :
    (pathKey p ∈ (s.toggleAll (.exact members)).keySet ↔
        pathKey p ∈ (s.symmetric (.exact members)).keySet) ↔
      (p ∈ members ↔ Odd (spellings members (pathKey p))) := by
  have there : pathKey p ∈ s.keySet := mem_keySet_of_mem hp
  rw [mem_keySet_toggleAll_exact, keySet_symmetric_exact, Finset.mem_union, Finset.mem_sdiff,
    pathKey_mem_keySet_filter (toList_difference_exact s members) hp, decide_eq_true_iff,
    ← Nat.not_even_iff_odd]
  simp only [there, true_iff, not_true_eq_false, and_false, or_false]
  exact iff_not_comm

/-- At a key that is not in the set, toggling counts spellings, and the symmetric
difference takes any. -/
theorem toggleAll_agrees_at_new (absent : key ∉ s.keySet) :
    (key ∈ (s.toggleAll (.exact members)).keySet ↔
        key ∈ (s.symmetric (.exact members)).keySet) ↔
      (key ∈ (ofList members).keySet → Odd (spellings members key)) := by
  have out : key ∉ (s.difference (.exact members)).keySet := fun hk =>
    absent (keySet_subset_of_filter (toList_difference_exact s members) hk)
  rw [mem_keySet_toggleAll_exact, keySet_symmetric_exact, Finset.mem_union, Finset.mem_sdiff]
  simp only [absent, out, false_iff, Nat.not_even_iff_odd, not_false_eq_true, and_true, false_or]
  refine ⟨Iff.mpr, fun h => ⟨?_, h⟩⟩
  rintro ⟨n, odd⟩
  exact spellings_pos_iff.1 (by omega)

/-- Toggling and the symmetric difference agree where the plain set has an odd number of
spellings of each key that it is to change. -/
theorem keySet_toggleAll_exact_iff (s : PathSet) (members : List String) :
    (s.toggleAll (.exact members)).keySet = (s.symmetric (.exact members)).keySet ↔
      (∀ p ∈ s.toList, p ∈ members ↔ Odd (spellings members (pathKey p))) ∧
        ∀ p ∈ members, pathKey p ∉ s.keySet → Odd (spellings members (pathKey p)) := by
  constructor
  · intro same
    refine ⟨fun p hp => (toggleAll_agrees_at_member hp).1 (by rw [same]), fun p hp absent => ?_⟩
    exact (toggleAll_agrees_at_new absent).1 (by rw [same]) (mem_keySet_ofList.2 ⟨p, hp, rfl⟩)
  · rintro ⟨own, new⟩
    ext key
    by_cases there : key ∈ s.keySet
    · obtain ⟨p, hp, rfl⟩ := mem_keySet.1 there
      exact (toggleAll_agrees_at_member hp).2 (own p hp)
    · refine (toggleAll_agrees_at_new there).2 fun hk => ?_
      obtain ⟨p, hp, rfl⟩ := mem_keySet_ofList.1 hk
      exact new p hp there

/-- **Operators with a set in which case counts.** A union has all keys of both, in place or
not, and an intersection those that the two share; a removal in place leaves the keys that
the plain set has in no spelling. But what is retained in place are the members that the
plain set has literally, and a difference has those that it has not; so each pair agrees
just where the plain set echoes the set. Toggling changes a key as often as the plain set
spells it, while a symmetric difference has the keys of both differences; these two agree
just where each key of the set has an odd number of spellings if its own is among them and
an even one otherwise, and each key that is new has an odd one. -/
theorem operators_with_plain_set (s : PathSet) (members : List String) :
    ((s.addAll (.exact members)).keySet = s.keySet ∪ (ofList members).keySet ∧
      (s.union (.exact members)).keySet = (s.addAll (.exact members)).keySet) ∧
    ((s.retainAll (.exact members)).toList = s.toList.filter (fun p => p ∈ members) ∧
      (s.intersection (.exact members)).keySet = s.keySet ∩ (ofList members).keySet ∧
      ((s.retainAll (.exact members)).keySet = (s.intersection (.exact members)).keySet ↔
        Echoes members s)) ∧
    ((s.removeAll (.exact members)).keySet = s.keySet \ (ofList members).keySet ∧
      (s.difference (.exact members)).toList = s.toList.filter (fun p => p ∉ members) ∧
      ((s.removeAll (.exact members)).keySet = (s.difference (.exact members)).keySet ↔
        Echoes members s)) ∧
    ((∀ key, key ∈ (s.toggleAll (.exact members)).keySet ↔
        (key ∈ s.keySet ↔ Even (spellings members key))) ∧
      (s.symmetric (.exact members)).keySet =
        (s.difference (.exact members)).keySet ∪ ((ofList members).keySet \ s.keySet) ∧
      ((s.toggleAll (.exact members)).keySet = (s.symmetric (.exact members)).keySet ↔
        (∀ p ∈ s.toList, p ∈ members ↔ Odd (spellings members (pathKey p))) ∧
          ∀ p ∈ members, pathKey p ∉ s.keySet → Odd (spellings members (pathKey p)))) := by
  refine ⟨⟨keySet_addAll_exact s members, ?_⟩,
    ⟨toList_retainAll_exact s members, keySet_intersection_exact s members,
      keySet_retainAll_exact_iff s members⟩,
    ⟨keySet_removeAll_exact s members, toList_difference_exact s members,
      keySet_removeAll_exact_iff s members⟩,
    ⟨mem_keySet_toggleAll_exact s members, keySet_symmetric_exact s members,
      keySet_toggleAll_exact_iff s members⟩⟩
  rw [union_eq_addAll]

/-- A member that a plain set has in another spelling only: in place it is not retained but
removed, the other operators take it for common and leave it. -/
theorem operators_disagree :
    (((ofList ["/A"]).retainAll (.exact ["/a"])).toList = [] ∧
      ((ofList ["/A"]).intersection (.exact ["/a"])).toList = ["/a"]) ∧
    (((ofList ["/A"]).removeAll (.exact ["/a"])).toList = [] ∧
      ((ofList ["/A"]).difference (.exact ["/a"])).toList = ["/A"]) ∧
    (((ofList ["/A"]).toggleAll (.exact ["/a"])).toList = [] ∧
      ((ofList ["/A"]).symmetric (.exact ["/a"])).toList = ["/A"]) ∧
    ¬ ∀ (s : PathSet) (members : List String),
      (s.addAll (.exact members)).keySet = (s.union (.exact members)).keySet ∧
      (s.retainAll (.exact members)).keySet = (s.intersection (.exact members)).keySet ∧
      (s.removeAll (.exact members)).keySet = (s.difference (.exact members)).keySet ∧
      (s.toggleAll (.exact members)).keySet = (s.symmetric (.exact members)).keySet := by
  refine ⟨by decide +kernel, by decide +kernel, by decide +kernel, ?_⟩
  intro agree
  have removed : ((ofList ["/A"]).removeAll (.exact ["/a"])).keySet =
      ((ofList ["/A"]).difference (.exact ["/a"])).keySet := (agree _ _).2.2.1
  revert removed
  decide +kernel

end TreeSift.PathSet
