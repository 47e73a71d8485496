/-
  TreeSift.Search.Target — what a search looks for, and where.

  A search looks for files or for directories. Its two sources of candidates
  are the entries of one directory and the entries at every depth below it;
  both keep those of the wanted kind whose names a glob describes, in the order
  in which they are listed.

    §1 Targets     `Target`
    §2 Candidates  `children`, `descendants`
-/
import TreeSift.Glob
import TreeSift.Tree.Walk

namespace TreeSift

/-! ## §1 Targets -/

/-- What a search looks for. -/
inductive Target where
  | file
  | directory
  deriving DecidableEq, Repr

namespace Target

/-- The name of a target. -/
def name : Target → String
  | file => "file"
  | directory => "directory"

/-- The target of a name. -/
def ofName? : String → Option Target
  | "file" => some file
  | "directory" => some directory
  | _ => none

/-- Whether an entry is what a search looks for. -/
def admits : Target → Entry → Bool
  | file, e => e.kind = .file
  | directory, e => e.kind.isDirectory

theorem ofName?_name (t : Target) : ofName? t.name = some t := by cases t <;> rfl

end Target

/-! ## §2 Candidates -/

/-- The paths of the entries that are of the wanted kind and have a name that a
glob describes. -/
def candidates (glob : Glob) (target : Target) (found : List Entry) : List String :=
  (found.filter fun e => target.admits e && glob.covers e.name).map Entry.path

namespace Tree

/-- The candidates among the entries of a directory. -/
def children (t : Tree) (dir : String) (glob : Glob) (target : Target) :
    Except ListingError (List String) := do
  let here ← t.locate dir
  let found ← here.list dir
  checkKinds found
  return candidates glob target found

/-- The candidates at every depth below a directory. -/
def descendants (t : Tree) (dir : String) (glob : Glob) (target : Target) :
    Except ListingError (List String) := do
  let here ← t.locate dir
  let found ← here.walk dir
  return candidates glob target found

end Tree

end TreeSift
