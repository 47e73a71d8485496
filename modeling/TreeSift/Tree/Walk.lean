/-
  TreeSift.Tree.Walk — every entry below a directory.

  A walk keeps a pile of directories that it has yet to list and takes the
  topmost one each time. The entries of a directory come in listing order; its
  subdirectories are piled up in that order, so that the last one is walked
  first. The kind of every entry has to be known for this, hence a loop among
  the entries of a directory ends the walk before any subdirectory is listed.
-/
import TreeSift.Tree.Listing

namespace TreeSift.Tree

/-- Fails at the first entry whose kind cannot be found out. -/
def checkKinds (entries : List Entry) : Except ListingError Unit :=
  match entries.find? fun e => e.kind = .loop with
  | none => .ok ()
  | some e => .error (.loop e.path)

/-- The directories among some entries, each with its path. -/
def directories (entries : List Entry) : List (String × Tree) :=
  (entries.filter fun e => e.kind.isDirectory).map fun e => (e.path, e.tree)

/-- The number of places in a pile of directories. -/
def pileSize : List (String × Tree) → Nat
  | [] => 0
  | d :: rest => d.2.size + pileSize rest

theorem pileSize_nil : pileSize [] = 0 := rfl

theorem pileSize_cons (d : String × Tree) (pile : List (String × Tree)) :
    pileSize (d :: pile) = d.2.size + pileSize pile := rfl

theorem pileSize_append (p q : List (String × Tree)) :
    pileSize (p ++ q) = pileSize p + pileSize q := by
  induction p with
  | nil => simp [pileSize]
  | cons d rest ih =>
    rw [List.cons_append, pileSize_cons, pileSize_cons, ih]
    omega

theorem pileSize_reverse (p : List (String × Tree)) : pileSize p.reverse = pileSize p := by
  induction p with
  | nil => rfl
  | cons d rest ih =>
    rw [List.reverse_cons, pileSize_append, pileSize_cons, pileSize_cons, pileSize_nil, ih]
    omega

/-- The subdirectories of a directory have no more places than are below it. -/
theorem pileSize_directories (path : String) (f : Forest) :
    pileSize (directories (f.entries path)) ≤ f.size := by
  induction f with
  | nil => simp [Forest.entries, directories, pileSize]
  | place name kind below next _ ih =>
    simp only [Forest.entries, directories, List.filter_cons, Forest.size]
    split
    · simp only [directories] at ih
      simp only [List.map_cons, pileSize_cons, size]
      omega
    · simp only [directories] at ih
      omega

/-- A listing that succeeds is that of the places below. -/
theorem list_eq_ok {path : String} {t : Tree} {es : List Entry} (h : t.list path = .ok es) :
    es = t.below.entries path := by
  unfold list at h
  split at h <;> simp at h
  exact h.symm

/-- Lists the directories of a pile and everything below them. -/
def walkPile : List (String × Tree) → Except ListingError (List Entry)
  | [] => .ok []
  | (path, t) :: rest =>
    match _listed : t.list path with
    | .error e => .error e
    | .ok found =>
      match checkKinds found with
      | .error e => .error e
      | .ok () =>
        match walkPile ((directories found).reverse ++ rest) with
        | .error e => .error e
        | .ok more => .ok (found ++ more)
termination_by pile => pileSize pile
decreasing_by
  have hd := pileSize_directories path t.below
  rw [← list_eq_ok _listed] at hd
  rw [pileSize_append, pileSize_reverse, pileSize_cons]
  simp only [size]
  omega

/-- Every entry below a place with this path. -/
def walk (path : String) (t : Tree) : Except ListingError (List Entry) := walkPile [(path, t)]

end TreeSift.Tree
