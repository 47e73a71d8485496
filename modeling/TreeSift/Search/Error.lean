/-
  TreeSift.Search.Error — why a search or a rule fails.

  Each error has a code: 1 for a bad argument or pattern, 2 for a directory
  that is not there, 6 for an error without a kind of its own.
-/
import TreeSift.Text.Quoted

namespace TreeSift

/-- The codes that errors are given. -/
inductive ErrorCode where
  | success
  | invalidInput
  | notFound
  | permissionDenied
  | internalError
  deriving DecidableEq, Repr

namespace ErrorCode

/-- The number of a code. -/
def number : ErrorCode → Nat
  | success => 0
  | invalidInput => 1
  | notFound => 2
  | permissionDenied => 3
  | internalError => 6

/-- The code of a number. -/
def ofNumber? : Int → Option ErrorCode
  | 0 => some success
  | 1 => some invalidInput
  | 2 => some notFound
  | 3 => some permissionDenied
  | 6 => some internalError
  | _ => none

theorem ofNumber?_number (c : ErrorCode) : ofNumber? c.number = some c := by cases c <;> rfl

/-- What is said of a number that is no code. -/
def unknownMessage (n : Int) : String := s!"{n} is not a valid ErrorCode"

end ErrorCode

/-- Why a search or a rule fails. -/
inductive SearchError where
  /-- An error with a message and a code of its own. -/
  | general (message : String) (code : ErrorCode)
  /-- A required argument is absent. -/
  | missingArgument (name : String)
  /-- The place to search does not exist or is not a directory. -/
  | directoryNotFound (path : String)
  /-- A regular expression is not well formed. -/
  | invalidPattern (pattern : String) (reason : String)
  deriving DecidableEq, Repr

namespace SearchError

/-- The code that an error without a code of its own has. -/
def defaultCode : ErrorCode := .internalError

/-- The code of an error. -/
def code : SearchError → ErrorCode
  | general _ code => code
  | missingArgument _ => .invalidInput
  | directoryNotFound _ => .notFound
  | invalidPattern _ _ => .invalidInput

/-- The name of the kind of an error. -/
def name : SearchError → String
  | general _ _ => "SearchError"
  | missingArgument _ => "MissingArgumentError"
  | directoryNotFound _ => "DirectoryNotFoundError"
  | invalidPattern _ _ => "InvalidPatternError"

/-- The message of an error. A reason for the refusal of a pattern stands in
parentheses; no parentheses are written around nothing. -/
def message : SearchError → String
  | general message _ => message
  | missingArgument name => s!"Missing required argument: {name}"
  | directoryNotFound path => s!"Directory not found: {path}"
  | invalidPattern pattern reason =>
    let shown := s!"Invalid regular expression: {Text.quoted pattern}"
    if reason = "" then shown else s!"{shown} ({reason})"

end SearchError

end TreeSift
