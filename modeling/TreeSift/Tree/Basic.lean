/-
  TreeSift.Tree.Basic — directory trees.

  A forest is what stands in a directory: named places in the order in which
  they are listed, each with a kind and with what stands below it. A tree is
  one place. Only a directory shows what is below it; a place of another kind
  may still have places below it, which then cannot be reached.

    §1 Kinds, forests, trees
    §2 Building a tree from paths
-/
import TreeSift.Text.Pieces

namespace TreeSift

/-! ## §1 Kinds, forests, trees -/

/-- What a place in a tree is. -/
inductive Kind where
  /-- A directory that can be listed. -/
  | directory
  /-- A directory that cannot be listed. -/
  | denied
  /-- A regular file. -/
  | file
  /-- Something that is neither a file nor a directory. -/
  | other
  /-- A place whose kind cannot be found out. -/
  | loop
  deriving DecidableEq, Repr

namespace Kind

/-- Whether a place of this kind is a directory, listable or not. -/
def isDirectory : Kind → Bool
  | directory => true
  | denied => true
  | _ => false

end Kind

/-- Places side by side: the first one, what is below it, and the ones after it. -/
inductive Forest where
  | nil
  | place (name : String) (kind : Kind) (below : Forest) (next : Forest)
  deriving Repr

/-- One place with what is below it. -/
structure Tree where
  kind : Kind
  below : Forest
  deriving Repr

namespace Forest

/-- The number of places in a forest, at every depth. -/
def size : Forest → Nat
  | nil => 0
  | place _ _ below next => 1 + below.size + next.size

/-- The place of a given name. -/
def find? (name : String) : Forest → Option Tree
  | nil => none
  | place n kind below next => if n = name then some ⟨kind, below⟩ else next.find? name

/-- The names at the top of a forest, in listing order. -/
def names : Forest → List String
  | nil => []
  | place n _ _ next => n :: next.names

end Forest

namespace Tree

/-- The number of places of a tree, itself included. -/
def size (t : Tree) : Nat := 1 + t.below.size

/-- A directory with nothing in it. -/
def empty : Tree := ⟨.directory, .nil⟩

end Tree

/-! ## §2 Building a tree from paths -/

namespace Forest

/-- The forest with one place, at a path of names, directories above it. -/
def single (kind : Kind) : String → List String → Forest
  | name, [] => place name kind nil nil
  | name, next :: rest => place name .directory (single kind next rest) nil

/-- Puts a place at a path of names: a place that is there keeps its position
and takes the new kind, directories that are missing are made, and a new place
comes last among its siblings. -/
def insert (kind : Kind) : String → List String → Forest → Forest
  | name, rest, nil => single kind name rest
  | name, rest, place n k below next =>
    if n = name then
      match rest with
      | [] => place n kind below next
      | step :: more => place n k (insert kind step more below) next
    else place n k below (insert kind name rest next)

end Forest

namespace Tree

/-- The names on a path, empty pieces left out. -/
def pathNames (path : String) : List String :=
  ((Text.pieces '/' path.toList).filter (· ≠ [])).map String.ofList

/-- Puts a place into a tree. The top of the tree takes the kind when the path
names nothing. -/
def insert (t : Tree) (path : String) (kind : Kind) : Tree :=
  match pathNames path with
  | [] => { t with kind }
  | name :: rest => { t with below := t.below.insert kind name rest }

/-- The tree with the given places, in the order given. -/
def ofPlaces (places : List (String × Kind)) : Tree :=
  places.foldl (fun t p => t.insert p.1 p.2) empty

end Tree

end TreeSift
