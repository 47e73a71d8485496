/-
  TreeSift.Command.Failure — why a command fails.

  Failures of the kinds that the program knows are reported as errors; all
  others are unexpected and are recorded with their kind and message.
-/
import TreeSift.Rules.File
import TreeSift.Search.Basic
import TreeSift.Settings.Logging

namespace TreeSift

/-- Why a command fails. -/
inductive CommandFailure where
  /-- The file of settings that the command line names is not there. -/
  | noSettingsFile (path : String)
  | settings (e : SettingsFailure)
  | logger (e : LoggerFailure)
  /-- The encoding of files of rules is set to something that is no text. -/
  | encodingKind (kind : String)
  | ruleFile (e : RuleFileFailure)
  | search (e : Failure)
  /-- A search has no pattern, as a separator alone stands for it. -/
  | noPattern (method : Method)
  deriving DecidableEq, Repr

namespace CommandFailure

/-- The name of the kind of a failure. -/
def name : CommandFailure → String
  | noSettingsFile _ => "CLIError"
  | settings e => e.name
  | logger e => e.name
  | encodingKind _ => "TypeError"
  | ruleFile e => e.name
  | search e => e.name
  | noPattern .wildcard => "AttributeError"
  | noPattern (.regex _) => "TypeError"

/-- A failure in words. -/
def message : CommandFailure → String
  | noSettingsFile path => s!"Configuration file does not exist: {path}"
  | settings e => e.message
  | logger e => e.message
  | encodingKind kind => s!"open() argument 'encoding' must be str or None, not {kind}"
  | ruleFile e => e.message
  | search e => e.message
  | noPattern .wildcard => "'list' object has no attribute 'split'"
  | noPattern (.regex _) => "unhashable type: 'list'"

/-- Whether a failure is of a kind that the program knows. -/
def isKnown : CommandFailure → Bool
  | noSettingsFile _ => true
  | settings (.file _) => true
  | ruleFile (.file _) => true
  | search (.search _) => true
  | _ => false

end CommandFailure

end TreeSift
