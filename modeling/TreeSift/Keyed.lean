/-
  TreeSift.Keyed — values under keys, in the order of their first writing.

  Writing under a key that is there replaces its value in place; under a new key
  the value comes last.
-/

namespace TreeSift

/-- Values under keys, at most one of them reachable for each key. -/
abbrev Keyed (κ α : Type) := List (κ × α)

namespace Keyed

variable {κ α : Type} [DecidableEq κ]

/-- The value under a key. -/
def get? (k : κ) : Keyed κ α → Option α
  | [] => none
  | (j, v) :: rest => if j = k then some v else get? k rest

/-- Writes a value under a key. -/
def set (k : κ) (v : α) : Keyed κ α → Keyed κ α
  | [] => [(k, v)]
  | (j, w) :: rest => if j = k then (j, v) :: rest else (j, w) :: set k v rest

/-- Writes all values of a second list into a first. -/
def update (m changes : Keyed κ α) : Keyed κ α := changes.foldl (fun m c => set c.1 c.2 m) m

/-- The keys. -/
def keys (m : Keyed κ α) : List κ := m.map Prod.fst

theorem get?_set_self (k : κ) (v : α) (m : Keyed κ α) : get? k (set k v m) = some v := by
  induction m with
  | nil => simp [set, get?]
  | cons head rest ih =>
    obtain ⟨j, w⟩ := head
    by_cases h : j = k <;> simp [set, get?, h, ih]

theorem get?_set_ne {k j : κ} (v : α) (m : Keyed κ α) (h : k ≠ j) :
    get? j (set k v m) = get? j m := by
  induction m with
  | nil => simp [set, get?, h]
  | cons head rest ih =>
    obtain ⟨i, w⟩ := head
    by_cases hi : i = k
    · subst hi
      simp [set, get?, h]
    · simp [set, get?, hi, ih]

/-- A key that has no value is not there. -/
theorem get?_eq_none_iff {k : κ} {m : Keyed κ α} : get? k m = none ↔ k ∉ keys m := by
  induction m with
  | nil => simp [get?, keys]
  | cons head rest ih =>
    obtain ⟨j, v⟩ := head
    by_cases h : j = k
    · simp [get?, keys, h]
    · have hk : k ≠ j := fun same => h same.symm
      simp only [keys] at ih
      simp [get?, keys, h, hk, ih]

theorem keys_set (k : κ) (v : α) (m : Keyed κ α) :
    keys (set k v m) = if k ∈ keys m then keys m else keys m ++ [k] := by
  induction m with
  | nil => simp [set, keys]
  | cons head rest ih =>
    obtain ⟨i, w⟩ := head
    simp only [keys] at ih
    by_cases hi : i = k
    · simp [set, keys, hi]
    · have hk : k ≠ i := fun h => hi h.symm
      by_cases hm : k ∈ rest.map Prod.fst
      · simp [set, keys, hi, ih, hm]
      · simp [set, keys, hi, ih, hm, hk]

end Keyed

end TreeSift
