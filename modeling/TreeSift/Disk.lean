/-
  TreeSift.Disk — files in the current directory.

  Besides the tree that is searched there are files with content, for rules,
  settings and logs. They are named by paths from the current directory, or from
  the top if a slash comes first. Empty pieces of a path and dots do not count;
  two dots go up, but not out of the current directory, and every directory on
  the way has to be there. A file may be there without being open to be read, and a
  path may begin with the directory of a user.

    §1 Paths  `pathParts`, `pathStart`, `suffix`, `shownPath`
    §2 Disks  `Disk.look`, `Disk.file?`, `Disk.write`, `Disk.expand`
-/
import TreeSift.Keyed
import TreeSift.Text.Lower
import TreeSift.Text.Pieces
import TreeSift.Text.Quoted

namespace TreeSift

/-! ## §1 Paths -/

/-- The pieces of a path that count. -/
def pathParts (path : String) : List String :=
  ((Text.pieces '/' path.toList).filter fun p => p ≠ [] && p ≠ ['.']).map String.ofList

/-- The name of the top, from which a path goes that begins with a slash. -/
def topName : String := "/"

/-- The names from which a path goes: none for the current directory. -/
def pathStart (path : String) : List String :=
  if path.toList.head? = some '/' then [topName] else []

/-- The part of a name from its last dot on; a dot at either end does not count. -/
def suffixOf (name : List Char) : List Char :=
  let after := name.reverse.takeWhile (· ≠ '.')
  let stem := name.length - after.length - 1
  if after.length < name.length && !after.isEmpty && 0 < stem then '.' :: after.reverse else []

/-- The suffix of the last piece of a path, in lower case. -/
def suffix (path : String) : String :=
  Text.lower (String.ofList (suffixOf ((pathParts path).getLast?.getD "").toList))

/-- A path as it is displayed: two slashes at the beginning stay, all others that do not
part two names go. -/
def shownPath (path : String) : String :=
  let slashes := (path.toList.takeWhile (· = '/')).length
  let top := if slashes = 2 then "//" else if 0 < slashes then "/" else ""
  let whole := top ++ "/".intercalate (pathParts path)
  if whole = "" then "." else whole

/-- What is said of a file that may not be opened. -/
def deniedMessage (shown : String) : String := "[Errno 13] Permission denied: " ++ Text.quoted shown

/-! ## §2 Disks -/

/-- Files and directories by the names on their paths; a directory has no content. -/
structure Disk where
  entries : List (List String × Option ByteArray)
  /-- The files that may not be opened. -/
  locked : List (List String)
  /-- The directories of users by their names; without a name it is the user at hand. -/
  homes : Keyed String String

/-- What is at a path, if it is a file at all. -/
inductive Glance where
  | nothing
  /-- A file that may not be opened; only its size is known. -/
  | locked (size : Nat)
  | file (content : ByteArray)

/-- The size of a file. -/
def Glance.size? : Glance → Option Nat
  | nothing => none
  | locked size => some size
  | file content => some content.size

namespace Disk

/-- A disk with nothing on it. -/
def empty : Disk := ⟨[], [], []⟩

/-- Whether names lead to a directory. -/
def isDirectory (d : Disk) (names : List String) : Bool :=
  names.isEmpty || names == [topName] || d.entries.any fun e =>
    (e.1 == names && e.2.isNone) || (e.1 != names && names.isPrefixOf e.1)

/-- Follows the pieces of a path from a directory. -/
def follow (d : Disk) (here : List String) : List String → Option (List String)
  | [] => some here
  | name :: rest =>
    if !d.isDirectory here then none
    else if name = ".." then
      if here.isEmpty then none
      else if here = [topName] then follow d here rest
      else follow d here.dropLast rest
    else follow d (here ++ [name]) rest

/-- The names that a path leads to. -/
def names? (d : Disk) (path : String) : Option (List String) :=
  if path.toList.contains '\x00' then none else d.follow (pathStart path) (pathParts path)

/-- What is kept under names. -/
def contentOf (d : Disk) (names : List String) : Option ByteArray :=
  ((d.entries.reverse.find? fun e => e.1 == names).map Prod.snd).join

/-- What is at a path. -/
def look (d : Disk) (path : String) : Glance :=
  match d.names? path with
  | none => .nothing
  | some names =>
    match d.contentOf names with
    | none => .nothing
    | some content => if d.locked.contains names then .locked content.size else .file content

/-- The content of the file at a path, if it may be opened. -/
def file? (d : Disk) (path : String) : Option ByteArray :=
  match d.look path with
  | .file content => some content
  | _ => none

theorem file?_eq_some_iff {d : Disk} {path : String} {content : ByteArray} :
    d.file? path = some content ↔ d.look path = .file content := by
  rw [file?]
  cases d.look path <;> simp

/-- Puts a file or a directory on a disk. -/
def write (d : Disk) (path : String) (content : Option ByteArray) : Disk :=
  { d with entries := d.entries ++ [(pathStart path ++ pathParts path, content)] }

/-- Forbids to open the file at a path. -/
def lock (d : Disk) (path : String) : Disk :=
  { d with locked := (pathStart path ++ pathParts path) :: d.locked }

/-- A path without the slashes at its end. -/
def withoutSlash (path : String) : String :=
  String.ofList (path.toList.reverse.dropWhile (· = '/')).reverse

/-- A path with the directory of a user in the place of a tilde and their name, with which a
path may begin that does not begin at the top. -/
def expand (d : Disk) (path : String) : Option String :=
  match pathStart path, pathParts path with
  | [], first :: rest =>
    match first.toList with
    | '~' :: user => do
      let home ← (Keyed.get? (String.ofList user) d.homes).map withoutSlash
      if home.toList.head? = some '~' then none
      else some (if home = "" && rest.isEmpty then "/" else "/".intercalate (home :: rest))
    | _ => some path
  | _, _ => some path

end Disk

end TreeSift
