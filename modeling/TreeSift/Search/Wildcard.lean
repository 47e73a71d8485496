/-
  TreeSift.Search.Wildcard — resolving the segments of a wildcard pattern.

  The segments are resolved one after another from a directory on: a segment
  leads to the children whose names it describes, a multi-level marker together
  with the segment after it to such entries at every depth. The last segment
  has to lead to what is looked for, all others lead to directories. A marker
  at the very end stands for all directories below when directories are looked
  for, and for all children when files are.

  The list of segments stays the same throughout; an index tells from where on
  it still has to be resolved.
-/
import TreeSift.PathSet.Basic
import TreeSift.Pattern
import TreeSift.Search.Target

namespace TreeSift.Wildcard

/-- The glob that describes every name. -/
def everyName : Glob := [.run]

/-- What is found below each of some directories, put together in order. -/
def collect (dirs : List String) (find : String → Except ListingError PathSet) :
    Except ListingError PathSet :=
  dirs.foldlM (fun found dir => do return found.insertAll (← find dir).toList) .empty

/-- What the last segment leads to. -/
def resolveLast (t : Tree) (segment : String) (target : Target) (dir : String) :
    Except ListingError (List String) :=
  match target with
  | .file => t.children dir (Glob.ofText segment) .file
  | .directory =>
    if isMultiLevel segment then t.descendants dir everyName .directory
    else t.children dir (Glob.ofText segment) .directory

/-- What the segments from an index on lead to from a directory. -/
def resolve (t : Tree) (segments : List String) (target : Target) (start : Nat) (dir : String) :
    Except ListingError PathSet :=
  match _h : segments[start]? with
  | none => .ok .empty
  | some segment =>
    match segments[start + 1]? with
    | none => do return .ofList (← resolveLast t segment target dir)
    | some next =>
      if isMultiLevel segment then
        if segments.length = start + 2 then do
          return .ofList (← t.descendants dir (Glob.ofText next) target)
        else do
          let dirs ← t.descendants dir (Glob.ofText next) .directory
          collect dirs fun d => resolve t segments target (start + 2) d
      else do
        let dirs ← t.children dir (Glob.ofText segment) .directory
        collect dirs fun d => resolve t segments target (start + 1) d
termination_by segments.length - start
decreasing_by
  all_goals
    have := (List.getElem?_eq_some_iff.1 _h).1
    omega

/-- From beyond the last segment on nothing is found. -/
theorem resolve_of_length_le {t : Tree} {segments : List String} {target : Target}
    {start : Nat} {dir : String} (h : segments.length ≤ start) :
    resolve t segments target start dir = .ok .empty := by
  rw [resolve]
  split
  · rfl
  · rename_i segment hs
    rw [List.getElem?_eq_none h] at hs
    exact absurd hs (by simp)

end TreeSift.Wildcard
