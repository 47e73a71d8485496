/-
  TreeSift.Search.Request — what a search is asked for, and the checks on it.

  A request names the place to search, a pattern and a target. The three have
  to be there, the target has to be one, and the place has to be a directory;
  this is checked in that order.

    §1 Requests  `Root`, `Request`
    §2 Checks    `required`, `checkRoot`, `Request.check`
-/
import TreeSift.Search.Failure
import TreeSift.Search.Target

namespace TreeSift

/-! ## §1 Requests -/

/-- A place to search, as it is given. -/
inductive Root where
  | path (path : String)
  /-- Something that is no path. -/
  | notAPath
  deriving DecidableEq, Repr

/-- What a search is asked for, as it is given. -/
structure Request where
  root : Option Root
  pattern : Option String
  target : Option String
  deriving DecidableEq, Repr

/-- What a search is asked for, checked. -/
structure Inquiry where
  root : String
  pattern : String
  target : Target
  deriving DecidableEq, Repr

/-! ## §2 Checks -/

/-- An argument that has to be there. -/
def required {α : Type} (name : String) : Option α → Except SearchError α
  | none => .error (.missingArgument name)
  | some a => .ok a

/-- The greatest length of a path to search. -/
def maxPathLength : Nat := 4096

/-- The path of a directory to search. -/
def checkRoot (t : Tree) : Root → Except Failure String
  | .notAPath => .error .notAPath
  | .path p =>
    if p.length > maxPathLength || p.toList.contains '\x00' || !t.isDirectory p then
      .error (.search (.directoryNotFound p))
    else .ok p

/-- The target of a name that is given. -/
def checkTarget (name : String) : Except Failure Target :=
  match Target.ofName? name with
  | some target => .ok target
  | none => .error (.unknownTarget name)

/-- Checks a request. -/
def Request.check (t : Tree) (r : Request) : Except Failure Inquiry := do
  let root ← (required "root" r.root).mapError .search
  let pattern ← (required "pattern" r.pattern).mapError .search
  let target ← checkTarget (← (required "target" r.target).mapError .search)
  let root ← checkRoot t root
  return ⟨root, pattern, target⟩

end TreeSift
