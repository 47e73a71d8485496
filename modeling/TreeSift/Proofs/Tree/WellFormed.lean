/-
  TreeSift.Proofs.Tree.WellFormed — the trees that a file system can hold.

  The name of a place is not empty, is neither one dot nor two, and holds no
  slash, and no two places of one directory share their name. Every tree that
  is described by a list of places is of this sort, unless a path in the list
  goes through a dot or two dots (`wellFormed_ofPlaces`).

    §1 Names             `IsName`
    §2 Forests           `Forest.WellFormed`, `Tree.WellFormed`
    §3 Trees from paths  `Tree.wellFormed_ofPlaces`
-/
import TreeSift.Proofs.Text.Pieces
import TreeSift.Tree.Basic

namespace TreeSift

/-! ## §1 Names -/

/-- What can be the name of a place in a directory. -/
structure IsName (name : String) : Prop where
  ne_empty : name ≠ ""
  ne_dot : name ≠ "."
  ne_dots : name ≠ ".."
  no_slash : '/' ∉ name.toList

instance (name : String) : Decidable (IsName name) :=
  decidable_of_iff (name ≠ "" ∧ name ≠ "." ∧ name ≠ ".." ∧ '/' ∉ name.toList)
    ⟨fun ⟨h₁, h₂, h₃, h₄⟩ => ⟨h₁, h₂, h₃, h₄⟩, fun ⟨h₁, h₂, h₃, h₄⟩ => ⟨h₁, h₂, h₃, h₄⟩⟩

/-! ## §2 Forests -/

namespace Forest

/-- Every place has a proper name, which no place beside it has. -/
def WellFormed : Forest → Prop
  | nil => True
  | place name _ below next =>
    IsName name ∧ name ∉ next.names ∧ below.WellFormed ∧ next.WellFormed

instance decidableWellFormed : (f : Forest) → Decidable f.WellFormed
  | nil => isTrue trivial
  | place name _ below next =>
    have := decidableWellFormed below
    have := decidableWellFormed next
    inferInstanceAs (Decidable
      (IsName name ∧ name ∉ next.names ∧ below.WellFormed ∧ next.WellFormed))

theorem find?_eq_none {name : String} {f : Forest} (h : name ∉ f.names) :
    f.find? name = none := by
  induction f with
  | nil => rfl
  | place n kind below next _ ih =>
    simp only [names, List.mem_cons, not_or] at h
    rw [find?, if_neg (Ne.symm h.1), ih h.2]

/-- What is found in a well-formed forest has a proper name and is well-formed
itself. -/
theorem WellFormed.of_find? {f : Forest} (wf : f.WellFormed) {name : String} {t : Tree}
    (h : f.find? name = some t) : IsName name ∧ t.below.WellFormed := by
  induction f with
  | nil => simp [find?] at h
  | place n kind below next _ ih =>
    obtain ⟨isName, _, wfBelow, wfNext⟩ := wf
    rw [find?] at h
    split at h
    · rename_i heq
      obtain rfl := Option.some.inj h
      exact ⟨heq ▸ isName, wfBelow⟩
    · exact ih wfNext h

end Forest

namespace Tree

/-- Everything below has a proper name of its own. -/
def WellFormed (t : Tree) : Prop := t.below.WellFormed

instance (t : Tree) : Decidable t.WellFormed := Forest.decidableWellFormed t.below

end Tree

/-! ## §3 Trees from paths -/

namespace Forest

theorem names_single (kind : Kind) (name : String) (rest : List String) :
    (single kind name rest).names = [name] := by
  cases rest <;> rfl

theorem wellFormed_single {kind : Kind} {name : String} {rest : List String}
    (h : ∀ n ∈ name :: rest, IsName n) : (single kind name rest).WellFormed := by
  induction rest generalizing name with
  | nil => exact ⟨h name (by simp), by simp [names], trivial, trivial⟩
  | cons next rest ih =>
    refine ⟨h name (by simp), by simp [names], ?_, trivial⟩
    exact ih fun n hn => h n (List.mem_cons_of_mem _ hn)

theorem mem_names_insert {kind : Kind} {name : String} {rest : List String} {f : Forest}
    {n : String} : n ∈ (f.insert kind name rest).names ↔ n = name ∨ n ∈ f.names := by
  induction f with
  | nil => simp [insert, names_single, names]
  | place m k below next _ ih =>
    rw [insert.eq_def]
    dsimp only
    split
    · rename_i heq
      subst heq
      cases rest <;> simp [names]
    · simp only [names, List.mem_cons, ih]
      exact or_left_comm

theorem WellFormed.insert {kind : Kind} {f : Forest} (wf : f.WellFormed) {name : String}
    {rest : List String} (h : ∀ n ∈ name :: rest, IsName n) :
    (f.insert kind name rest).WellFormed := by
  induction f generalizing name rest with
  | nil => exact wellFormed_single h
  | place m k below next ihBelow ihNext =>
    obtain ⟨isName, fresh, wfBelow, wfNext⟩ := wf
    rw [Forest.insert.eq_def]
    dsimp only
    split
    · cases rest with
      | nil => exact ⟨isName, fresh, wfBelow, wfNext⟩
      | cons step more =>
        exact ⟨isName, fresh, ihBelow wfBelow fun n hn => h n (List.mem_cons_of_mem _ hn), wfNext⟩
    · rename_i hne
      refine ⟨isName, ?_, wfBelow, ihNext wfNext h⟩
      rw [mem_names_insert]
      rintro (heq | hmem)
      · exact hne heq
      · exact fresh hmem

end Forest

namespace Tree

/-- The names on a path are proper ones, up to dots. -/
theorem isName_of_mem_pathNames {path name : String} (h : name ∈ pathNames path)
    (dot : name ≠ ".") (dots : name ≠ "..") : IsName name := by
  simp only [pathNames, List.mem_map, List.mem_filter, decide_eq_true_eq] at h
  obtain ⟨piece, ⟨hmem, hne⟩, rfl⟩ := h
  refine ⟨?_, dot, dots, ?_⟩
  · intro heq
    rw [← String.toList_eq_nil_iff, String.toList_ofList] at heq
    exact hne heq
  · rw [String.toList_ofList]
    exact Text.not_mem_of_mem_pieces hmem

theorem WellFormed.insert {t : Tree} (wf : t.WellFormed) {path : String} {kind : Kind}
    (h : ∀ n ∈ pathNames path, n ≠ "." ∧ n ≠ "..") : (t.insert path kind).WellFormed := by
  unfold Tree.insert
  split
  · exact wf
  · rename_i name rest hp
    refine Forest.WellFormed.insert wf fun n hn => ?_
    rw [← hp] at hn
    exact isName_of_mem_pathNames hn (h n hn).1 (h n hn).2

/-- A tree is well-formed if it is described by places none of which lies below a
dot or two dots. -/
theorem wellFormed_ofPlaces {places : List (String × Kind)}
    (h : ∀ p ∈ places, ∀ n ∈ pathNames p.1, n ≠ "." ∧ n ≠ "..") :
    (ofPlaces places).WellFormed := by
  suffices grown : ∀ t : Tree, t.WellFormed →
      (places.foldl (fun t p => t.insert p.1 p.2) t).WellFormed from grown empty trivial
  induction places with
  | nil => exact fun t wf => wf
  | cons p rest ih =>
    intro t wf
    have first : (t.insert p.1 p.2).WellFormed := wf.insert (h p List.mem_cons_self)
    exact ih (fun q hq => h q (List.mem_cons_of_mem _ hq)) _ first

end Tree

end TreeSift
