/-
  TreeSift.Tree.Listing — the entries of a directory.

  Listing a path gives the entries of the directory it names, in listing order,
  each with its own path. It fails when the path names nothing, names something
  that is not a directory, or a directory that cannot be listed. The kind of an
  entry can be asked for; for a loop the question fails.
-/
import TreeSift.Tree.Resolve
import TreeSift.Text.Quoted

namespace TreeSift

/-- Why a directory could not be enumerated; each names the path concerned. -/
inductive ListingError where
  /-- The path names nothing. -/
  | notFound (path : String)
  /-- The directory cannot be listed. -/
  | denied (path : String)
  /-- The path names something that is not a directory. -/
  | notDirectory (path : String)
  /-- The kind of an entry cannot be found out. -/
  | loop (path : String)
  deriving DecidableEq, Repr

namespace ListingError

/-- The path that an error is about. -/
def path : ListingError → String
  | notFound p | denied p | notDirectory p | loop p => p

/-- The number that the system gives to an error. -/
def number : ListingError → Nat
  | notFound _ => 2
  | denied _ => 13
  | notDirectory _ => 20
  | loop _ => 40

/-- The words that the system has for an error. -/
def reason : ListingError → String
  | notFound _ => "No such file or directory"
  | denied _ => "Permission denied"
  | notDirectory _ => "Not a directory"
  | loop _ => "Too many levels of symbolic links"

/-- An error as it is reported. -/
def message (e : ListingError) : String :=
  s!"[Errno {e.number}] {e.reason}: {Text.quoted e.path}"

end ListingError

/-- An entry of a directory: its name, its path and the place it is. -/
structure Entry where
  name : String
  path : String
  tree : Tree

namespace Entry

/-- The kind of an entry. -/
def kind (e : Entry) : Kind := e.tree.kind

end Entry

namespace Forest

/-- The entries of a directory with this path and this content. -/
def entries (path : String) : Forest → List Entry
  | nil => []
  | place name kind below next => ⟨name, Tree.join path name, ⟨kind, below⟩⟩ :: next.entries path

end Forest

namespace Tree

/-- The entries of a place with this path, if it is a directory that can be
listed. -/
def list (path : String) (t : Tree) : Except ListingError (List Entry) :=
  match t.kind with
  | .directory => .ok (t.below.entries path)
  | .denied => .error (.denied path)
  | _ => .error (.notDirectory path)

/-- The place that a path names, or the failure to find it. -/
def locate (t : Tree) (path : String) : Except ListingError Tree :=
  match t.resolve? path with
  | none => .error (.notFound path)
  | some here => .ok here

end Tree

end TreeSift
