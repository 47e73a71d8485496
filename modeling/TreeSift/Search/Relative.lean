/-
  TreeSift.Search.Relative — regular expressions against relative paths.

  A regular expression is searched for in the path of an entry without the path
  of the place that is searched. Patterns write a slash between names. Where
  names are separated by a backslash, every run of slashes in a pattern is
  written as an escaped backslash first, and a pattern that is refused is shown
  as it was given.

    §1 Paths     `relativePath`
    §2 Patterns  `adaptSeparators`, `searchRegex`
    §3 Matches   `relativeMatches`
-/
import TreeSift.PathSet.Basic
import TreeSift.Regex.Basic
import TreeSift.Search.Failure
import TreeSift.Search.Wildcard

namespace TreeSift

/-! ## §1 Paths -/

/-- Whether a character separates names. -/
def isSeparator (c : Char) : Bool := c == '/' || c == '\\'

/-- A path without the one it begins with and the separators after that. -/
def relativePath (path root : String) : String :=
  String.ofList ((path.toList.drop root.length).dropWhile isSeparator)

/-! ## §2 Patterns -/

/-- Writes every run of slashes as two backslashes. `inRun` tells whether the
character before the list is a slash. -/
def backslashed (inRun : Bool) : List Char → List Char
  | [] => []
  | c :: rest =>
    if c = '/' then (if inRun then [] else ['\\', '\\']) ++ backslashed true rest
    else c :: backslashed false rest

/-- A pattern for names that a text separates. -/
def adaptSeparators (pattern sep : String) : String :=
  if sep = "\\" then String.ofList (backslashed false pattern.toList) else pattern

/-- The regular expression of a pattern for names that a text separates. -/
def searchRegex (pattern sep : String) : Except Failure Regex :=
  let adapted := adaptSeparators pattern sep
  match Regex.ofPattern adapted with
  | .ok r => .ok r
  | .error (.fault cause position) =>
    .error (.search (.invalidPattern pattern
      (Regex.Refusal.message adapted (.fault cause position))))
  | .error r => .error (.pattern r)

/-! ## §3 Matches -/

/-- The entries below a directory whose relative paths hold a match. -/
def relativeMatches (t : Tree) (root : String) (r : Regex) (target : Target) :
    Except ListingError PathSet := do
  let paths ← t.descendants root Wildcard.everyName target
  return .ofList (paths.filter fun p => r.isFoundIn (relativePath p root))

end TreeSift
