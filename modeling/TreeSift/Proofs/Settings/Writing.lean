/-
  TreeSift.Proofs.Settings.Writing — what writing a value does to a layer.

  Where the value was written it is read again (`at?_walk`), and parts that diverge from
  its key lead where they led before (`at?_walk_of_diverge`), also through the other
  positions at which it is written (`at?_write_of_diverge`). Writing fails if and only if
  some of the parts lead to something that is not a mapping (`walk_refused_iff`), and then
  nothing has been made on the way: the layer is the same (`walk_of_refused`).

    §1 Keys      `sameKey_text`
    §2 Mappings  `get?_set_self`, `get?_set_of_not_same`, `set_of_get?`
    §3 Ways      `Diverge`
    §4 Walks     `at?_walk`, `at?_walk_of_diverge`, `walk_refused_iff`, `walk_of_refused`
    §5 Positions `at?_write_of_diverge`
    §6 Layers    `Layer.at?_write`, `Layer.at?_write_of_diverge`, `Layer.write_of_refused`
-/
import TreeSift.Proofs.Fallible
import TreeSift.Settings.Layer

namespace TreeSift

/-! ## §1 Keys -/

namespace Scalar

theorem sameKey_iff {j k : Scalar} : j.sameKey k = true ↔ j.keyForm = k.keyForm :=
  decide_eq_true_iff

theorem sameKey_refl (k : Scalar) : k.sameKey k = true := sameKey_iff.2 rfl

theorem keyForm_text (s : String) : (Scalar.text s).keyForm = .inr (.inr (.text s)) := rfl

/-- A key is the same as a text if and only if it is that text. -/
theorem sameKey_text {k : Scalar} {s : String} : k.sameKey (.text s) = true ↔ k = .text s := by
  rw [sameKey_iff, keyForm_text]
  constructor
  · intro same
    rw [keyForm.eq_def] at same
    split at same
    · rename_i m
      cases h : m.instant? <;> simp [h] at same
    · cases h : k.toInt? with
      | none => simpa [h] using same
      | some n => simp [h] at same
  · rintro rfl
    exact keyForm_text s

/-- Keys that are the same as a third one are the same. -/
theorem sameKey_of_sameKey {j k l : Scalar} (hk : j.sameKey k = true) (hl : j.sameKey l = true) :
    k.sameKey l = true :=
  sameKey_iff.2 ((sameKey_iff.1 hk).symm.trans (sameKey_iff.1 hl))

end Scalar

/-! ## §2 Mappings -/

namespace Mapping

theorem get?_set_self (k : Scalar) (v : Value) (m : Mapping) : get? k (set k v m) = some v := by
  induction m with
  | nil => simp [set, get?, Scalar.sameKey_refl]
  | cons head rest ih =>
    obtain ⟨j, w⟩ := head
    by_cases h : j.sameKey k = true <;> simp [set, get?, h, ih]

theorem get?_set_of_not_same {k l : Scalar} (v : Value) (m : Mapping)
    (other : ¬ k.sameKey l = true) : get? l (set k v m) = get? l m := by
  induction m with
  | nil => simp [set, get?, other]
  | cons head rest ih =>
    obtain ⟨j, w⟩ := head
    by_cases h : j.sameKey k = true
    · have hl : ¬ j.sameKey l = true := fun hl => other (Scalar.sameKey_of_sameKey h hl)
      simp [set, get?, h, hl]
    · simp [set, get?, h, ih]

/-- To write under a key what is there changes nothing. -/
theorem set_of_get? {k : Scalar} {v : Value} {m : Mapping} (there : get? k m = some v) :
    set k v m = m := by
  induction m with
  | nil => simp [get?] at there
  | cons head rest ih =>
    obtain ⟨j, w⟩ := head
    by_cases h : j.sameKey k = true
    · rw [get?, if_pos h] at there
      rw [set, if_pos h, Option.some.inj there]
    · rw [get?, if_neg h] at there
      rw [set, if_neg h, ih there]

end Mapping

/-! ## §3 Ways -/

/-- Neither of two ways is the beginning of the other. -/
def Diverge {α : Type} (p q : List α) : Prop := ¬ p <+: q ∧ ¬ q <+: p

instance {α : Type} [DecidableEq α] (p q : List α) : Decidable (Diverge p q) :=
  inferInstanceAs (Decidable (¬ p <+: q ∧ ¬ q <+: p))

namespace Diverge

variable {α : Type} {p q : List α}

theorem symm (h : Diverge p q) : Diverge q p := ⟨h.2, h.1⟩

theorem left_ne_nil (h : Diverge p q) : p ≠ [] := by
  rintro rfl
  exact h.1 List.nil_prefix

theorem right_ne_nil (h : Diverge p q) : q ≠ [] := h.symm.left_ne_nil

theorem cons_iff {a : α} : Diverge (a :: p) (a :: q) ↔ Diverge p q := by
  simp [Diverge, List.cons_prefix_cons]

theorem map_iff {β : Type} {f : α → β} (injective : ∀ a b, f a = f b → a = b) :
    Diverge (p.map f) (q.map f) ↔ Diverge p q := by
  have prefix_iff : ∀ p q : List α, p.map f <+: q.map f ↔ p <+: q := by
    intro p
    induction p with
    | nil => simp
    | cons a p ih =>
      intro q
      cases q with
      | nil => simp
      | cons b q =>
        have same : f a = f b ↔ a = b := ⟨injective a b, congrArg f⟩
        rw [List.map_cons, List.map_cons, List.cons_prefix_cons, List.cons_prefix_cons, ih, same]
  rw [Diverge, Diverge, prefix_iff, prefix_iff]

end Diverge

/-- Parts diverge if and only if their positions do. -/
theorem diverge_partsPosition {parts others : List String} :
    Diverge (partsPosition parts) (partsPosition others) ↔ Diverge parts others := by
  refine Diverge.map_iff fun a b h => ?_
  simpa using h

/-! ## §4 Walks -/

/-- A value is a mapping. -/
def Value.IsMapping (v : Value) : Prop := ∃ m, v = .mapping m

theorem Value.at?_cons (m : Mapping) (part : String) (rest : List String) :
    (Value.mapping m).at? (part :: rest) =
      (Mapping.get? (.text part) m).bind fun v => v.at? rest := by
  rw [Value.at?]
  cases Mapping.get? (.text part) m <;> rfl

theorem Value.at?_of_not_isMapping {v : Value} (no : ¬ v.IsMapping) {parts : List String}
    (some : parts ≠ []) : v.at? parts = none := by
  cases parts with
  | nil => exact absurd rfl some
  | cons part rest =>
    cases v with
    | mapping m => exact absurd ⟨m, rfl⟩ no
    | _ => rfl

namespace Mapping

variable {v : Value} {first : String} {rest : List String} {m : Mapping}

/-! One step of a walk, by what the part leads to. -/

theorem walk_last (v : Value) (first : String) (m : Mapping) :
    walk v first [] m = (.ok (), set (.text first) v m) := by rw [walk]

theorem walk_absent {next : String} (absent : get? (.text first) m = none) :
    walk v first (next :: rest) m =
      ((walk v next rest []).1, set (.text first) (.mapping (walk v next rest []).2) m) := by
  rw [walk, absent]

theorem walk_mapping {next : String} {inner : Mapping}
    (there : get? (.text first) m = some (.mapping inner)) :
    walk v first (next :: rest) m =
      ((walk v next rest inner).1, set (.text first) (.mapping (walk v next rest inner).2) m) := by
  rw [walk, there]

theorem walk_obstacle {next : String} {w : Value} (there : get? (.text first) m = some w)
    (obstacle : ¬ w.IsMapping) :
    walk v first (next :: rest) m = (.error (if rest.isEmpty then .parent else .ancestor), m) := by
  cases w with
  | mapping inner => exact absurd ⟨inner, rfl⟩ obstacle
  | _ => rw [walk, there]

/-- In a new mapping nothing is in the way. -/
theorem walk_new (v : Value) (first : String) (rest : List String) :
    (walk v first rest []).1 = .ok () := by
  induction rest generalizing first with
  | nil => rfl
  | cons next rest ih => rw [walk_absent rfl, ih]

/-- A key of a mapping leads nowhere, on into a mapping, or to something in the way. -/
theorem leads_cases (k : Scalar) (m : Mapping) :
    get? k m = none ∨ (∃ inner, get? k m = some (.mapping inner)) ∨
      ∃ w, get? k m = some w ∧ ¬ w.IsMapping := by
  cases get? k m with
  | none => exact .inl rfl
  | some w =>
    by_cases passable : w.IsMapping
    · obtain ⟨inner, rfl⟩ := passable
      exact .inr (.inl ⟨inner, rfl⟩)
    · exact .inr (.inr ⟨w, rfl, passable⟩)

/-- A walk that fails has changed nothing. -/
theorem walk_of_refused {e : PlacingError} (refused : (walk v first rest m).1 = .error e) :
    (walk v first rest m).2 = m := by
  induction rest generalizing first m with
  | nil => exact absurd refused (by simp [walk_last])
  | cons next rest ih =>
    rcases leads_cases (.text first) m with absent | ⟨inner, there⟩ | ⟨w, there, obstacle⟩
    · -- What is made on the way is empty, so that the rest of the way is free.
      rw [walk_absent absent, walk_new] at refused
      exact absurd refused (by simp)
    · rw [walk_mapping there] at refused ⊢
      have same : (walk v next rest inner).2 = inner := ih refused
      rw [same]
      exact set_of_get? there
    · rw [walk_obstacle there obstacle]

/-- A walk fails if and only if some of the parts, not all, lead to something that is not
a mapping. -/
theorem walk_refused_iff :
    (∃ e, (walk v first rest m).1 = .error e) ↔
      ∃ before after w, before ≠ [] ∧ after ≠ [] ∧ before ++ after = first :: rest ∧
        (Value.mapping m).at? before = some w ∧ ¬ w.IsMapping := by
  induction rest generalizing first m with
  | nil =>
    have free : ¬ ∃ e, (walk v first [] m).1 = .error e := by simp [walk_last]
    refine iff_of_false free ?_
    rintro ⟨before, after, w, hb, ha, parts, -⟩
    have two := congrArg List.length parts
    have := List.length_pos_iff.2 hb
    have := List.length_pos_iff.2 ha
    simp only [List.length_append, List.length_cons, List.length_nil] at two
    omega
  | cons next rest ih =>
    constructor
    · rintro ⟨e, refused⟩
      rcases leads_cases (.text first) m with absent | ⟨inner, there⟩ | ⟨w, there, obstacle⟩
      · rw [walk_absent absent, walk_new] at refused
        exact absurd refused (by simp)
      · rw [walk_mapping there] at refused
        obtain ⟨before, after, u, hb, ha, parts, leads, obstacle⟩ := ih.1 ⟨e, refused⟩
        refine ⟨first :: before, after, u, by simp, ha, by rw [← parts]; rfl, ?_, obstacle⟩
        rw [Value.at?_cons, there]
        exact leads
      · refine ⟨[first], next :: rest, w, by simp, by simp, rfl, ?_, obstacle⟩
        rw [Value.at?_cons, there]
        rfl
    · rintro ⟨before, after, u, hb, ha, parts, leads, obstacle⟩
      obtain ⟨part, before, rfl⟩ := List.exists_cons_of_ne_nil hb
      obtain ⟨rfl, remaining⟩ := List.cons.inj parts
      rw [Value.at?_cons] at leads
      rcases leads_cases (.text part) m with absent | ⟨inner, there⟩ | ⟨w, there, here⟩
      · rw [absent] at leads
        exact absurd leads (by simp)
      · rw [there] at leads
        rw [walk_mapping there]
        refine ih.2 ⟨before, after, u, ?_, ha, remaining, leads, obstacle⟩
        rintro rfl
        exact obstacle ⟨inner, (Option.some.inj leads).symm⟩
      · exact ⟨_, by rw [walk_obstacle there here]⟩

/-- Where a walk has come to an end, the value is read. -/
theorem at?_walk (done : (walk v first rest m).1 = .ok ()) :
    (Value.mapping (walk v first rest m).2).at? (first :: rest) = some v := by
  induction rest generalizing first m with
  | nil =>
    rw [walk_last, Value.at?_cons, get?_set_self]
    rfl
  | cons next rest ih =>
    rcases leads_cases (.text first) m with absent | ⟨inner, there⟩ | ⟨w, there, obstacle⟩
    · rw [walk_absent absent] at done ⊢
      rw [Value.at?_cons, get?_set_self]
      exact ih done
    · rw [walk_mapping there] at done ⊢
      rw [Value.at?_cons, get?_set_self]
      exact ih done
    · rw [walk_obstacle there obstacle] at done
      exact absurd done (by simp)

/-- Parts that begin otherwise than those of a walk lead where they led before it. -/
theorem at?_walk_of_ne {part : String} (other : first ≠ part) (more : List String) :
    (Value.mapping (walk v first rest m).2).at? (part :: more) =
      (Value.mapping m).at? (part :: more) := by
  have apart : ¬ (Scalar.text first).sameKey (.text part) = true := by
    simpa [Scalar.sameKey_text] using other
  rw [Value.at?_cons, Value.at?_cons]
  cases rest with
  | nil => rw [walk_last, get?_set_of_not_same _ _ apart]
  | cons next rest =>
    rcases leads_cases (.text first) m with absent | ⟨inner, there⟩ | ⟨w, there, obstacle⟩
    · rw [walk_absent absent, get?_set_of_not_same _ _ apart]
    · rw [walk_mapping there, get?_set_of_not_same _ _ apart]
    · rw [walk_obstacle there obstacle]

/-- Parts that diverge from those of a walk lead where they led before it. -/
theorem at?_walk_of_diverge {parts : List String} (apart : Diverge (first :: rest) parts) :
    (Value.mapping (walk v first rest m).2).at? parts = (Value.mapping m).at? parts := by
  induction rest generalizing first m parts with
  | nil =>
    obtain ⟨part, more, rfl⟩ := List.exists_cons_of_ne_nil apart.right_ne_nil
    refine at?_walk_of_ne ?_ more
    rintro rfl
    exact (Diverge.cons_iff.1 apart).left_ne_nil rfl
  | cons next rest ih =>
    obtain ⟨part, more, rfl⟩ := List.exists_cons_of_ne_nil apart.right_ne_nil
    by_cases same : first = part
    · subst same
      have later : Diverge (next :: rest) more := Diverge.cons_iff.1 apart
      rcases leads_cases (.text first) m with absent | ⟨inner, there⟩ | ⟨w, there, obstacle⟩
      · -- The new mapping shows these parts nothing.
        obtain ⟨part, more, rfl⟩ := List.exists_cons_of_ne_nil later.right_ne_nil
        rw [walk_absent absent, Value.at?_cons, Value.at?_cons, get?_set_self, absent]
        exact ih later
      · rw [walk_mapping there, Value.at?_cons, Value.at?_cons, get?_set_self, there]
        exact ih later
      · rw [walk_obstacle there obstacle]
    · exact at?_walk_of_ne same more

end Mapping

/-! ## §5 Positions -/

namespace Value

/-- Parts whose position diverges from one at which a value is written lead where they
led before. -/
theorem at?_write_of_diverge {v w : Value} {p : Position} {parts : List String}
    (apart : Diverge p (partsPosition parts)) : (v.write p w).at? parts = w.at? parts := by
  induction p generalizing w parts with
  | nil => exact absurd rfl apart.left_ne_nil
  | cons branch p ih =>
    have some : parts ≠ [] := by
      rintro rfl
      exact apart.right_ne_nil rfl
    cases branch with
    | item i =>
      cases w with
      | list items =>
        have no : ∀ items, ¬ (Value.list items).IsMapping := by rintro items ⟨m, h⟩; cases h
        rw [write, at?_of_not_isMapping (no _) some, at?_of_not_isMapping (no _) some]
      | pair first second =>
        have no : ∀ a b, ¬ (Value.pair a b).IsMapping := by rintro a b ⟨m, h⟩; cases h
        rw [write]
        split <;> rw [at?_of_not_isMapping (no _ _) some, at?_of_not_isMapping (no _ _) some]
      | _ => simp [write]
    | entry k =>
      cases w with
      | scalar s => simp [write]
      | list items => simp [write]
      | set members => simp [write]
      | pair first second => simp [write]
      | mapping m =>
        obtain ⟨part, more, rfl⟩ := List.exists_cons_of_ne_nil some
        rw [write, at?_cons, at?_cons]
        by_cases same : k.sameKey (.text part) = true
        · obtain rfl := Scalar.sameKey_text.1 same
          have later : Diverge p (partsPosition more) := Diverge.cons_iff.1 apart
          rw [Mapping.get?_set_self, Option.bind_some, ih later]
          cases Mapping.get? (.text part) m with
          | some u => rfl
          | none =>
            have deeper : more ≠ [] := by
              rintro rfl
              exact later.right_ne_nil rfl
            obtain ⟨next, rest, rfl⟩ := List.exists_cons_of_ne_nil deeper
            rfl
        · rw [Mapping.get?_set_of_not_same _ _ same]

/-- A mapping in which something is written within is a mapping. -/
theorem isMapping_write {v w : Value} {p : Position} (within : p ≠ []) (h : w.IsMapping) :
    (v.write p w).IsMapping := by
  obtain ⟨branch, p, rfl⟩ := List.exists_cons_of_ne_nil within
  obtain ⟨m, rfl⟩ := h
  cases branch with
  | entry k => exact ⟨_, rfl⟩
  | item i => exact ⟨m, rfl⟩

/-- A value that is written at several positions within a mapping. -/
theorem foldl_write {v w : Value} {positions : List Position} (h : w.IsMapping)
    (within : ∀ p ∈ positions, p ≠ []) :
    (positions.foldl (fun w p => v.write p w) w).IsMapping := by
  induction positions generalizing w with
  | nil => exact h
  | cons p rest ih =>
    rw [List.foldl_cons]
    exact ih (isMapping_write (within p List.mem_cons_self) h)
      fun q hq => within q (List.mem_cons_of_mem _ hq)

theorem at?_foldl_write {v w : Value} {positions : List Position} {parts : List String}
    (apart : ∀ p ∈ positions, Diverge p (partsPosition parts)) :
    (positions.foldl (fun w p => v.write p w) w).at? parts = w.at? parts := by
  induction positions generalizing w with
  | nil => rfl
  | cons p rest ih =>
    rw [List.foldl_cons, ih fun q hq => apart q (List.mem_cons_of_mem _ hq),
      at?_write_of_diverge (apart p List.mem_cons_self)]

end Value

/-! ## §6 Layers -/

/-- The other positions of an entry diverge from the one by which they are found. -/
theorem Ties.diverge_of_mem_others {ties : Ties} {p q : Position} (h : q ∈ ties.others p) :
    Diverge q p := by
  have apart := (List.mem_filter.1 h).2
  simpa [Diverge, ← List.isPrefixOf_iff_prefix] using apart

theorem Ties.others_nil (p : Position) : Ties.others [] p = [] := by
  have none : (List.range p.length).reverse.findSome?
      (fun _ => (none : Option (List Position))) = none :=
    List.findSome?_eq_none_iff.2 fun _ _ => rfl
  simp [Ties.others, none]

namespace Layer

variable {l : Layer} {key : String} {v : Value}

/-- Where no mapping stands at several positions, an entry has the position that its key
says, and no other. -/
theorem names_of_untied (untied : l.ties = []) : l.names key = [partsPosition (keyPath key)] := by
  rw [names, untied, Ties.others_nil]

/-- Writing comes to the end that the walk comes to. -/
theorem write_fst (l : Layer) (key : String) (v : Value) :
    (l.write key v).1 = (Mapping.walk v (keyParts key).1 (keyParts key).2 l.content).1 := by
  rw [write]
  split <;> rename_i h <;> rw [h]

/-- A layer in which nothing could be written is the same. -/
theorem write_of_refused {e : PlacingError} (refused : (l.write key v).1 = .error e) :
    (l.write key v).2 = l := by
  rw [write_fst] at refused
  have same := Mapping.walk_of_refused refused
  rw [write]
  split
  · rename_i h
    rw [h] at same
    exact congrArg (Layer.mk · l.ties) same
  · rename_i h
    rw [h] at refused
    exact absurd refused (by simp)

/-- What is written: the walk, and then the same value at all other positions. -/
theorem content_write (done : (l.write key v).1 = .ok ()) :
    Value.mapping (l.write key v).2.content =
      (l.ties.others (partsPosition (keyPath key))).foldl (fun w p => v.write p w)
        (.mapping (Mapping.walk v (keyParts key).1 (keyParts key).2 l.content).2) := by
  rw [write_fst] at done
  rw [write]
  split
  · rename_i h
    rw [h] at done
    exact absurd done (by simp)
  · rename_i m h
    have within : ∀ p ∈ l.ties.others (partsPosition (keyPath key)), p ≠ [] :=
      fun p hp => (Ties.diverge_of_mem_others hp).left_ne_nil
    obtain ⟨entries, whole⟩ := Value.foldl_write (v := v) ⟨m, rfl⟩ within
    rw [h]
    dsimp only
    rw [whole]
    rfl

/-- What was written under a key is read under it. -/
theorem at?_write (done : (l.write key v).1 = .ok ()) :
    (Value.mapping (l.write key v).2.content).at? (keyPath key) = some v := by
  rw [content_write done, Value.at?_foldl_write fun p hp => Ties.diverge_of_mem_others hp]
  rw [write_fst] at done
  exact Mapping.at?_walk done

/-- A key that diverges from all positions of the entry that was written leads where it
led before. -/
theorem at?_write_of_diverge {other : String}
    (apart : ∀ name ∈ l.names key, Diverge name (partsPosition (keyPath other))) :
    (Value.mapping (l.write key v).2.content).at? (keyPath other) =
      (Value.mapping l.content).at? (keyPath other) := by
  cases done : (l.write key v).1 with
  | error e => rw [write_of_refused done]
  | ok u =>
    have own : Diverge (keyPath key) (keyPath other) :=
      diverge_partsPosition.1 (apart _ List.mem_cons_self)
    rw [content_write done,
      Value.at?_foldl_write fun p hp => apart p (List.mem_cons_of_mem _ hp)]
    exact Mapping.at?_walk_of_diverge own

end Layer

end TreeSift
