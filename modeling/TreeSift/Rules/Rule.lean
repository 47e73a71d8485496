/-
  TreeSift.Rules.Rule — one line of a rule list.

  A rule is a sign, two letters, a colon and a pattern: the sign says whether
  what is found is added or removed, the letters say how the pattern is
  understood and what is looked for. The letters may be in either case. Blank
  lines and lines that start with a hash say nothing; any other line that is no
  rule is left to whoever knows it.
-/
import TreeSift.Search.Basic
import TreeSift.Text.Blank
import TreeSift.Text.Lower

namespace TreeSift

/-- What a rule does with the paths that it finds. -/
inductive RuleAction where
  | add
  | remove
  deriving DecidableEq, Repr

/-- A rule. -/
structure Rule where
  action : RuleAction
  method : Method
  target : Target
  pattern : String
  /-- The line that the rule was read from, trimmed. -/
  line : String
  deriving DecidableEq, Repr

namespace RuleAction

/-- The action of a sign. -/
def ofSign? : Char → Option RuleAction
  | '+' => some add
  | '-' => some remove
  | _ => none

/-- The name of an action. -/
def name : RuleAction → String
  | add => "add"
  | remove => "remove"

end RuleAction

/-- The name of a method. -/
def Method.name : Method → String
  | .wildcard => "wildcard"
  | .regex _ => "regex"

namespace Rule

/-- What the letters and the colon of a rule, in lower case, say. -/
def kind? : String → Option (Method × Target)
  | "wf:" => some (.wildcard, .file)
  | "rf:" => some (.plainRegex, .file)
  | "wd:" => some (.wildcard, .directory)
  | "rd:" => some (.plainRegex, .directory)
  | _ => none

/-- The rule that a trimmed line writes. -/
def ofTrimmed? (line : List Char) : Option Rule :=
  match line with
  | sign :: a :: b :: c :: pattern =>
    match RuleAction.ofSign? sign, kind? (Text.lower (String.ofList [a, b, c])) with
    | some action, some (method, target) =>
      some ⟨action, method, target, String.ofList pattern, String.ofList line⟩
    | _, _ => none
  | _ => none

/-- The rule that a line writes; an absent line is blank. -/
def parse? (line : Option String) : Option Rule := ofTrimmed? (Text.trimmed (line.getD "").toList)

end Rule

/-- Whether a trimmed line says nothing: it is empty or a comment. -/
def isIgnorable (line : String) : Bool :=
  match line.toList with
  | [] => true
  | c :: _ => c == '#'

end TreeSift
