/-
  TreeSift.Search.Failure — everything that can end a search or a rule.

  Besides the errors of searching itself these are the failures of enumeration,
  arguments of a wrong kind, patterns that are refused for other reasons than a
  fault of theirs, and what a custom rule reports.
-/
import TreeSift.Regex.Fault
import TreeSift.Search.Error
import TreeSift.Tree.Listing

namespace TreeSift

namespace ListingError

/-- The name of the kind of an error. -/
def name : ListingError → String
  | notFound _ => "FileNotFoundError"
  | denied _ => "PermissionError"
  | notDirectory _ => "NotADirectoryError"
  | loop _ => "OSError"

end ListingError

/-- Why a search or a rule ended early. -/
inductive Failure where
  | search (e : SearchError)
  | listing (e : ListingError)
  /-- A name that is no target. -/
  | unknownTarget (name : String)
  /-- A place to search that is not given as a path. -/
  | notAPath
  /-- A pattern refused for its size, its alphabets or a name that is not listed. -/
  | pattern (r : Regex.Refusal)
  /-- What a custom rule reports. -/
  | custom (message : String)
  deriving DecidableEq, Repr

namespace Failure

/-- The name of the kind of a failure. -/
def name : Failure → String
  | search e => e.name
  | listing e => e.name
  | unknownTarget _ => "ValueError"
  | notAPath => "TypeError"
  | pattern .largeCount => "OverflowError"
  | pattern (.fault _ _) => "InvalidPatternError"
  | pattern (.unlistedName _) => "NotImplementedError"
  | pattern _ => "ValueError"
  | custom _ => "ValueError"

/-- A failure in words; a value of a wrong kind has none. -/
def message : Failure → String
  | search e => e.message
  | listing e => e.message
  | unknownTarget name => s!"{Text.quoted name} is not a valid SearchTarget"
  | notAPath => ""
  | pattern r => r.message ""
  | custom message => message

/-- The code of a failure, if its kind has codes. -/
def code? : Failure → Option ErrorCode
  | search e => some e.code
  | _ => none

end Failure

end TreeSift
