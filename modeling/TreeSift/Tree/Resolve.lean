/-
  TreeSift.Tree.Resolve — from a path to the place it names.

  A path is cut at slashes and followed from the top of the tree: an empty
  piece or a dot stays, two dots go up (and stay at the top), any other piece
  goes to the place of that name. Every piece, an empty one after a final slash
  included, needs a directory to start from. The empty path names nothing, and
  a path without a first slash starts from the top as well.
-/
import TreeSift.Tree.Basic

namespace TreeSift.Tree

/-- Follows the pieces of a path from a place, given the places above it, the
nearest one first. -/
def follow (above : List Tree) (here : Tree) : List (List Char) → Option Tree
  | [] => some here
  | piece :: rest =>
    if !here.kind.isDirectory then none
    else if piece = [] || piece = ['.'] then follow above here rest
    else if piece = ['.', '.'] then
      match above with
      | [] => follow [] here rest
      | parent :: higher => follow higher parent rest
    else
      match here.below.find? (String.ofList piece) with
      | none => none
      | some t => follow (here :: above) t rest

/-- The place that a path names. -/
def resolve? (t : Tree) (path : String) : Option Tree :=
  if path = "" then none else follow [] t (Text.pieces '/' path.toList)

/-- Whether a path names a directory, listable or not. -/
def isDirectory (t : Tree) (path : String) : Bool :=
  match t.resolve? path with
  | none => false
  | some here => here.kind.isDirectory

/-- A path one step further down. -/
def join (path name : String) : String :=
  if path.toList.getLast? = some '/' then path ++ name else path ++ "/" ++ name

end TreeSift.Tree
