/-
  TreeSift.Proofs.Journal.Merging — contexts merged into one.

  However often values are written under a key, it has one value, the one that was written
  last (`nodup_keys_update`, `get?_update`), and stands where it was written first
  (`pairwise_keys_update`). So a merged context has each key once, with the value of the
  innermost context that sets it (`get?_merge_concat`, `filter_merge`).

    §1 Keys      `nodup_keys_update`, `get?_update`, `pairwise_keys_update`, `filter_key`
    §2 Contexts  `merge_eq_update`, `get?_merge_concat`, `filter_merge`
-/
import Mathlib.Data.List.Induction
import Mathlib.Data.List.Nodup
import TreeSift.Journal.Context

namespace TreeSift

/-! ## §1 Keys -/

namespace Keyed

variable {κ α : Type} [DecidableEq κ] {m : Keyed κ α}

theorem nodup_keys_set (once : (keys m).Nodup) (k : κ) (v : α) : (keys (set k v m)).Nodup := by
  rw [keys_set]
  split
  · exact once
  · rename_i absent
    rw [← List.concat_eq_append]
    exact once.concat absent

/-- Writing keeps every key once. -/
theorem nodup_keys_update (once : (keys m).Nodup) (changes : Keyed κ α) :
    (keys (update m changes)).Nodup := by
  induction changes generalizing m with
  | nil => exact once
  | cons c rest ih => exact ih (nodup_keys_set once c.1 c.2)

theorem get?_set (k j : κ) (v : α) (m : Keyed κ α) :
    get? j (set k v m) = if k = j then some v else get? j m := by
  split
  · rename_i same
    rw [same, get?_set_self]
  · rename_i other
    exact get?_set_ne v m other

theorem get?_append (k : κ) (m n : Keyed κ α) : get? k (m ++ n) = (get? k m).or (get? k n) := by
  induction m with
  | nil => rfl
  | cons head rest ih =>
    obtain ⟨j, v⟩ := head
    by_cases same : j = k <;> simp [get?, same, ih]

/-- A key has the value that was written under it last, else the one that it had. -/
theorem get?_update (k : κ) (m changes : Keyed κ α) :
    get? k (update m changes) = (get? k changes.reverse).or (get? k m) := by
  induction changes generalizing m with
  | nil => rfl
  | cons c rest ih =>
    have first : get? k [c] = if c.1 = k then some c.2 else none := rfl
    calc get? k (update m (c :: rest))
        = (get? k rest.reverse).or (get? k (set c.1 c.2 m)) := ih (set c.1 c.2 m)
      _ = (get? k rest.reverse).or ((get? k [c]).or (get? k m)) := by
          rw [get?_set, first]
          split <;> rfl
      _ = (get? k (c :: rest).reverse).or (get? k m) := by
          rw [List.reverse_cons, get?_append, Option.or_assoc]

/-- Writing adds the keys that are written and drops none. -/
theorem mem_keys_update {k : κ} {changes : Keyed κ α} :
    k ∈ keys (update m changes) ↔ k ∈ keys m ∨ k ∈ keys changes := by
  induction changes generalizing m with
  | nil => simp [update, keys]
  | cons c rest ih =>
    have first : k ∈ keys (set c.1 c.2 m) ↔ k ∈ keys m ∨ k = c.1 := by
      rw [keys_set]
      split
      · rename_i old
        exact ⟨.inl, fun h => h.elim id fun same => same ▸ old⟩
      · rw [List.mem_append, List.mem_singleton]
    calc k ∈ keys (update (set c.1 c.2 m) rest)
        ↔ (k ∈ keys m ∨ k = c.1) ∨ k ∈ keys rest := by rw [ih, first]
      _ ↔ k ∈ keys m ∨ k ∈ keys (c :: rest) := by
          rw [or_assoc, keys, keys, keys, List.map_cons, List.mem_cons]

/-- Written into nothing, keys stand in the order in which each is written for the first
time. -/
theorem pairwise_keys_update (changes : Keyed κ α) :
    (keys (update [] changes)).Pairwise fun k j =>
      (keys changes).idxOf k < (keys changes).idxOf j := by
  -- The induction takes the last change off, as an earlier one decides on the positions.
  induction changes using List.reverseRecOn with
  | nil => exact .nil
  | append_singleton earlier c ih =>
    have all : keys (earlier ++ [c]) = keys earlier ++ [c.1] := List.map_append
    have last : update [] (earlier ++ [c]) = set c.1 c.2 (update [] earlier) := by
      rw [update, List.foldl_append]
      rfl
    have known : ∀ k ∈ keys (update [] earlier), k ∈ keys earlier := fun k hk =>
      (mem_keys_update.1 hk).resolve_left List.not_mem_nil
    have kept : (keys (update [] earlier)).Pairwise fun k j =>
        (keys earlier ++ [c.1]).idxOf k < (keys earlier ++ [c.1]).idxOf j := by
      refine ih.imp_of_mem fun {k j} hk hj before => ?_
      rwa [List.idxOf_append_of_mem (known k hk), List.idxOf_append_of_mem (known j hj)]
    rw [last, all, keys_set]
    split
    · exact kept
    · rename_i new
      refine List.pairwise_append.2 ⟨kept, List.pairwise_singleton .., fun k hk j hj => ?_⟩
      obtain rfl := List.mem_singleton.1 hj
      have absent : c.1 ∉ keys earlier := fun h => new (mem_keys_update.2 (.inr h))
      calc (keys earlier ++ [c.1]).idxOf k
          = (keys earlier).idxOf k := List.idxOf_append_of_mem (known k hk)
        _ < (keys earlier).length := List.idxOf_lt_length_of_mem (known k hk)
        _ ≤ (keys earlier ++ [c.1]).idxOf c.1 := by
            rw [List.idxOf_append_of_notMem absent]
            exact Nat.le_add_right ..

/-- Of keys that are there once each, every entry is reachable. -/
theorem get?_of_mem {k : κ} {v : α} (once : (keys m).Nodup) (mem : (k, v) ∈ m) :
    get? k m = some v := by
  induction m with
  | nil => exact absurd mem List.not_mem_nil
  | cons head rest ih =>
    obtain ⟨j, w⟩ := head
    obtain ⟨new, once⟩ := List.nodup_cons.1 once
    rcases List.mem_cons.1 mem with same | later
    · obtain ⟨rfl, rfl⟩ := Prod.mk.inj same
      rw [get?, if_pos rfl]
    · have other : j ≠ k := by
        rintro rfl
        exact new (List.mem_map.2 ⟨(j, v), later, rfl⟩)
      rw [get?, if_neg other, ih once later]

/-- Of keys that are there once each, one that is reachable has one entry. -/
theorem filter_key {k : κ} {v : α} (once : (keys m).Nodup) (there : get? k m = some v) :
    (m.filter fun entry => entry.1 = k) = [(k, v)] := by
  induction m with
  | nil => exact absurd there (by simp [get?])
  | cons head rest ih =>
    obtain ⟨j, w⟩ := head
    obtain ⟨new, once⟩ := List.nodup_cons.1 once
    by_cases same : j = k
    · subst same
      rw [get?, if_pos rfl] at there
      obtain rfl := Option.some.inj there
      have none : (rest.filter fun entry => entry.1 = j) = [] := by
        refine List.filter_eq_nil_iff.2 fun entry mem again => new ?_
        obtain rfl : entry.1 = j := by simpa using again
        exact List.mem_map.2 ⟨entry, mem, rfl⟩
      rw [List.filter_cons_of_pos (by simp), none]
    · rw [get?, if_neg same] at there
      rw [List.filter_cons_of_neg (by simpa using same), ih once there]

end Keyed

/-! ## §2 Contexts -/

namespace Context

/-- To merge contexts is to write all their fields into nothing, one context after the
other. -/
theorem merge_eq_update (contexts : List Context) :
    merge contexts = Keyed.update [] contexts.flatten := by
  rw [Keyed.update, List.foldl_flatten]
  rfl

/-- A merged context has each key once. -/
theorem nodup_keys_merge (contexts : List Context) : (Keyed.keys (merge contexts)).Nodup := by
  have none : (Keyed.keys ([] : Context)).Nodup := List.nodup_nil
  rw [merge_eq_update]
  exact Keyed.nodup_keys_update none contexts.flatten

theorem merge_concat (outer : List Context) (inner : Context) :
    merge (outer ++ [inner]) = Keyed.update (merge outer) inner := by
  rw [merge, List.foldl_append]
  rfl

/-- What a key has in a merged context: what the innermost context gives, else what the
outer ones do. -/
theorem get?_merge_concat (k : String) (outer : List Context) (inner : Context) :
    Keyed.get? k (merge (outer ++ [inner])) =
      (Keyed.get? k inner.reverse).or (Keyed.get? k (merge outer)) := by
  rw [merge_concat, Keyed.get?_update]

/-- A key that is in a merged context has one field there. -/
theorem filter_merge {k : String} {v : FieldValue} {contexts : List Context}
    (there : Keyed.get? k (merge contexts) = some v) :
    ((merge contexts).filter fun field => field.1 = k) = [(k, v)] :=
  Keyed.filter_key (nodup_keys_merge contexts) there

end Context

end TreeSift
