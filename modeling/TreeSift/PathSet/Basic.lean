/-
  TreeSift.PathSet.Basic — sets of paths in which letter case does not count.

  Two paths are the same for a set when their keys, their case foldings, are
  equal. A set keeps the first spelling that it is given for a key and lists its
  members in the order in which they came in. Distinctness of the keys is part
  of the type.

    §1 Members     `pathKey`, `Member`
    §2 Sets        `PathSet`, `contains`, `insert`, `erase`, `remove?`
    §3 Many paths  `insertAll`, `eraseAll`, `ofList`
    §4 Readings    `popFirst?`, `sorted`, `shown`
-/
import TreeSift.Text.Fold
import TreeSift.Text.Quoted

namespace TreeSift

/-! ## §1 Members -/

/-- The key by which a path is compared with others. -/
def pathKey (path : String) : String := Text.fold path

namespace PathSet

/-- A path together with its key. -/
structure Member where
  path : String
  key : String
  key_eq : key = pathKey path

/-- A path as a member. -/
def Member.of (path : String) : Member := ⟨path, pathKey path, rfl⟩

@[simp] theorem Member.key_of (path : String) : (Member.of path).key = pathKey path := rfl

@[simp] theorem Member.path_of (path : String) : (Member.of path).path = path := rfl

end PathSet

/-! ## §2 Sets -/

/-- A set of paths: its members in the order in which they came in, no two of
them with the same key. -/
structure PathSet where
  members : List PathSet.Member
  distinct : (members.map PathSet.Member.key).Nodup

namespace PathSet

/-- The set without members. -/
def empty : PathSet := ⟨[], List.nodup_nil⟩

/-- The members of a set, each as it was first spelled. -/
def toList (s : PathSet) : List String := s.members.map Member.path

/-- The keys of the members. -/
def keys (s : PathSet) : List String := s.members.map Member.key

/-- The number of members. -/
def size (s : PathSet) : Nat := s.members.length

/-- Whether a key is that of a member. -/
def hasKey (s : PathSet) (key : String) : Bool := s.members.any fun m => m.key == key

/-- Whether a path is in a set, in any spelling. -/
def contains (s : PathSet) (path : String) : Bool := s.hasKey (pathKey path)

theorem hasKey_iff (s : PathSet) (key : String) : s.hasKey key = true ↔ key ∈ s.keys := by
  simp [hasKey, keys]

theorem keys_eq (s : PathSet) : s.keys = s.toList.map pathKey := by
  simp only [keys, toList, List.map_map]
  exact List.map_congr_left fun m _ => m.key_eq

theorem keys_nodup (s : PathSet) : s.keys.Nodup := s.distinct

theorem nodup_append_of_absent {s : PathSet} {m : Member} (h : s.hasKey m.key = false) :
    ((s.members ++ [m]).map Member.key).Nodup := by
  have absent : m.key ∉ s.keys := by
    rw [← hasKey_iff]
    simp [h]
  simp only [List.map_append, List.map_cons, List.map_nil, List.nodup_append]
  refine ⟨s.distinct, by simp, ?_⟩
  rintro a ha b hb rfl
  simp only [List.mem_singleton] at hb
  exact absent (hb ▸ ha)

/-- Adds a member unless its key is there. -/
def insertMember (s : PathSet) (m : Member) : PathSet :=
  if h : s.hasKey m.key = false then ⟨s.members ++ [m], nodup_append_of_absent h⟩ else s

/-- Adds a path unless it is there in some spelling. -/
def insert (s : PathSet) (path : String) : PathSet := s.insertMember (Member.of path)

/-- Removes a path, in whichever spelling it is there. -/
def erase (s : PathSet) (path : String) : PathSet :=
  let key := pathKey path
  ⟨s.members.filter fun m => m.key != key,
    List.Nodup.sublist (List.Sublist.map _ List.filter_sublist) s.distinct⟩

/-- Removes a path that has to be there. -/
def remove? (s : PathSet) (path : String) : Option PathSet :=
  if s.contains path then some (s.erase path) else none

theorem toList_insert (s : PathSet) (path : String) :
    (s.insert path).toList = if s.contains path then s.toList else s.toList ++ [path] := by
  unfold insert insertMember contains
  cases h : s.hasKey (pathKey path) <;> simp [toList, h]

theorem toList_erase (s : PathSet) (path : String) :
    (s.erase path).toList = s.toList.filter fun p => pathKey p != pathKey path := by
  simp only [erase, toList, List.filter_map]
  congr 1
  apply List.filter_congr
  intro m _
  simp [m.key_eq]

theorem contains_iff (s : PathSet) (path : String) :
    s.contains path = true ↔ pathKey path ∈ s.keys := s.hasKey_iff (pathKey path)

theorem keys_insert (s : PathSet) (path : String) :
    (s.insert path).keys = if s.contains path then s.keys else s.keys ++ [pathKey path] := by
  rw [keys_eq, toList_insert]
  split <;> simp [keys_eq]

theorem keys_erase (s : PathSet) (path : String) :
    (s.erase path).keys = s.keys.filter (· != pathKey path) := by
  rw [keys_eq, toList_erase, keys_eq, List.filter_map]
  rfl

/-- After a path has been added, it is there, and every other one is if it was before. -/
theorem contains_insert (s : PathSet) (path other : String) :
    (s.insert path).contains other = (pathKey other == pathKey path || s.contains other) := by
  rw [Bool.eq_iff_iff, Bool.or_eq_true, beq_iff_eq, contains_iff, contains_iff, keys_insert]
  split
  · rename_i h
    rw [contains_iff] at h
    exact ⟨Or.inr, fun hk => hk.elim (fun he => he ▸ h) id⟩
  · rw [List.mem_append, List.mem_singleton]
    exact Or.comm

theorem contains_erase (s : PathSet) (path other : String) :
    (s.erase path).contains other = (s.contains other && pathKey other != pathKey path) := by
  rw [Bool.eq_iff_iff, contains_iff, keys_erase, List.mem_filter, Bool.and_eq_true, contains_iff]

/-! ## §3 Many paths -/

/-- Adds paths one after the other. -/
def insertAll (s : PathSet) (paths : List String) : PathSet := paths.foldl insert s

/-- Removes paths one after the other. -/
def eraseAll (s : PathSet) (paths : List String) : PathSet := paths.foldl erase s

/-- The set of the paths of a list. -/
def ofList (paths : List String) : PathSet := empty.insertAll paths

theorem insertAll_append (s : PathSet) (p q : List String) :
    s.insertAll (p ++ q) = (s.insertAll p).insertAll q := by
  simp [insertAll]

/-! ## §4 Readings -/

/-- The member that came in first and the set without it. -/
def popFirst? (s : PathSet) : Option (String × PathSet) :=
  match s with
  | ⟨[], _⟩ => none
  | ⟨m :: rest, h⟩ => some (m.path, ⟨rest, (List.nodup_cons.1 h).2⟩)

/-- Texts in order of their code points. -/
def sortedTexts (texts : List String) : List String := texts.mergeSort fun a b => a ≤ b

/-- The members in order of their code points. -/
def sorted (s : PathSet) : List String := sortedTexts s.toList

/-- A set as it is displayed. -/
def shown (s : PathSet) : String :=
  "PathSet([" ++ ", ".intercalate (s.sorted.map Text.quoted) ++ "])"

end PathSet

end TreeSift
