/-
  TreeSift.Proofs.PathSet.Gathering — what many paths make of a set.

  Adding paths one after the other adds their keys, and keeps of every key the
  spelling that came first; removing them removes their keys. Of the whole list
  the set keeps what `firstSpellings` says.

  A set that holds just the paths of some sort, each in one spelling, gathers
  them (`Gathers`). Gathering is kept when sets are put together one by one.

    §1 Keys             `mem_keys_insertAll`, `mem_keys_eraseAll`
    §2 First spellings  `firstSpellings`, `toList_ofList`
    §3 Gathering        `PathSet.Gathers`
-/
import TreeSift.PathSet.Basic
import TreeSift.Proofs.Fallible

namespace TreeSift

namespace PathSet

/-! ## §1 Keys -/

theorem toList_nodup (s : PathSet) : s.toList.Nodup := by
  have keys := s.keys_nodup
  rw [keys_eq] at keys
  exact List.Pairwise.of_map pathKey (fun _ _ ne same => ne (congrArg pathKey same)) keys

theorem mem_keys_insert {s : PathSet} {path key : String} :
    key ∈ (s.insert path).keys ↔ key ∈ s.keys ∨ key = pathKey path := by
  rw [keys_insert]
  split
  · rename_i h
    rw [contains_iff] at h
    exact ⟨Or.inl, fun hk => hk.elim id fun heq => heq ▸ h⟩
  · rw [List.mem_append, List.mem_singleton]

theorem mem_keys_insertAll {s : PathSet} {paths : List String} {key : String} :
    key ∈ (s.insertAll paths).keys ↔ key ∈ s.keys ∨ key ∈ paths.map pathKey := by
  induction paths generalizing s with
  | nil => simp [insertAll]
  | cons p paths ih =>
    rw [insertAll, List.foldl_cons, ← insertAll, ih, mem_keys_insert, List.map_cons,
      List.mem_cons, or_assoc]

theorem mem_keys_eraseAll {s : PathSet} {paths : List String} {key : String} :
    key ∈ (s.eraseAll paths).keys ↔ key ∈ s.keys ∧ key ∉ paths.map pathKey := by
  induction paths generalizing s with
  | nil => simp [eraseAll]
  | cons p paths ih =>
    rw [eraseAll, List.foldl_cons, ← eraseAll, ih, keys_erase, List.mem_filter, bne_iff_ne,
      List.map_cons, List.mem_cons, not_or, and_assoc]

end PathSet

/-! ## §2 First spellings -/

/-- The paths of a list without those that an earlier one equals up to case. -/
def firstSpellings : List String → List String
  | [] => []
  | p :: rest => p :: (firstSpellings rest).filter fun q => pathKey q ≠ pathKey p

theorem mem_of_mem_firstSpellings {p : String} {ps : List String} (h : p ∈ firstSpellings ps) :
    p ∈ ps := by
  induction ps with
  | nil => exact h
  | cons q rest ih =>
    rcases List.mem_cons.1 h with rfl | h
    · exact List.mem_cons_self
    · exact List.mem_cons_of_mem _ (ih (List.mem_filter.1 h).1)

namespace PathSet

/-- A set that paths are added to keeps what it has, and of the paths the first
spelling of every key that it does not have. -/
theorem toList_insertAll (s : PathSet) (paths : List String) :
    (s.insertAll paths).toList =
      s.toList ++ (firstSpellings paths).filter fun p => !s.contains p := by
  induction paths generalizing s with
  | nil => simp [insertAll, firstSpellings]
  | cons p paths ih =>
    rw [insertAll, List.foldl_cons, ← insertAll, ih, toList_insert, firstSpellings,
      List.filter_cons, List.filter_filter]
    have absent : ∀ q, (!(s.insert p).contains q) =
        (!s.contains q && decide (pathKey q ≠ pathKey p)) := by
      intro q
      rw [contains_insert]
      by_cases hq : pathKey q = pathKey p <;> simp [hq]
    simp only [absent]
    cases hp : s.contains p with
    | true => simp
    | false => simp

/-- What is in a set after paths have been added was there or is one of them. -/
theorem mem_insertAll {s : PathSet} {paths : List String} {p : String}
    (h : p ∈ (s.insertAll paths).toList) : p ∈ s.toList ∨ p ∈ paths := by
  rw [toList_insertAll, List.mem_append] at h
  exact h.imp_right fun hp => mem_of_mem_firstSpellings (List.mem_filter.1 hp).1

/-- Removing paths adds none. -/
theorem mem_eraseAll {s : PathSet} {paths : List String} {p : String}
    (h : p ∈ (s.eraseAll paths).toList) : p ∈ s.toList := by
  induction paths generalizing s with
  | nil => exact h
  | cons q rest ih =>
    have erased : p ∈ (s.erase q).toList := ih h
    rw [toList_erase] at erased
    exact (List.mem_filter.1 erased).1

/-- A set of paths lists the first spellings in order. -/
theorem toList_ofList (paths : List String) : (ofList paths).toList = firstSpellings paths := by
  rw [ofList, toList_insertAll]
  simp [toList, empty, contains, hasKey]

/-! ## §3 Gathering -/

/-- A set gathers the paths of some sort: its members are of that sort, and it
has the keys of all of them. -/
structure Gathers (s : PathSet) (sort : String → Prop) : Prop where
  sound : ∀ p ∈ s.toList, sort p
  complete : ∀ p, sort p → pathKey p ∈ s.keys

theorem Gathers.congr {s : PathSet} {P Q : String → Prop} (h : s.Gathers P)
    (same : ∀ p, P p ↔ Q p) : s.Gathers Q :=
  ⟨fun p hp => (same p).1 (h.sound p hp), fun p hp => h.complete p ((same p).2 hp)⟩

/-- The keys of a set are those of the paths that it gathers. -/
theorem Gathers.mem_keys {s : PathSet} {P : String → Prop} (h : s.Gathers P) (key : String) :
    key ∈ s.keys ↔ ∃ p, P p ∧ pathKey p = key := by
  constructor
  · intro hk
    rw [keys_eq, List.mem_map] at hk
    obtain ⟨p, hp, rfl⟩ := hk
    exact ⟨p, h.sound p hp, rfl⟩
  · rintro ⟨p, hp, rfl⟩
    exact h.complete p hp

theorem gathers_empty : empty.Gathers fun _ => False :=
  ⟨fun p hp => absurd hp (by simp [toList, empty]), fun _ hp => hp.elim⟩

/-- Adding all members of a second set gathers both sorts. -/
theorem Gathers.insertAll {s u : PathSet} {P Q : String → Prop} (hs : s.Gathers P)
    (hu : u.Gathers Q) : (s.insertAll u.toList).Gathers fun p => P p ∨ Q p := by
  constructor
  · intro p hp
    rw [toList_insertAll, List.mem_append] at hp
    rcases hp with hp | hp
    · exact .inl (hs.sound p hp)
    · exact .inr (hu.sound p (mem_of_mem_firstSpellings (List.mem_filter.1 hp).1))
  · intro p hp
    rw [mem_keys_insertAll, ← keys_eq]
    exact hp.imp (hs.complete p) (hu.complete p)

theorem gathers_ofList (paths : List String) : (ofList paths).Gathers (· ∈ paths) := by
  constructor
  · intro p hp
    rw [toList_ofList] at hp
    exact mem_of_mem_firstSpellings hp
  · intro p hp
    rw [ofList, mem_keys_insertAll]
    exact .inr (List.mem_map_of_mem hp)

end PathSet

end TreeSift
