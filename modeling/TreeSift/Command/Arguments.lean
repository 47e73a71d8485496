/-
  TreeSift.Command.Arguments — what a command line asks for.

    §1 Arguments  `Task`, `Arguments`
    §2 Reading    `Arguments.ofLine`
    §3 Exits      `Exit.code`, `Exit.output`
-/
import TreeSift.Command.Line
import TreeSift.Search.Basic

namespace TreeSift

/-! ## §1 Arguments -/

/-- What the program is to do. -/
inductive Task where
  /-- To search; there is no pattern where a separator alone stands for it. -/
  | search (method : Method) (pattern : Option String) (target : Target)
  /-- To carry out the rules of files. -/
  | rules (files : List String) (halt : Bool)
  deriving DecidableEq, Repr

/-- The command of a task. -/
def Task.command : Task → String
  | search .wildcard _ _ => "wildcard"
  | search (.regex _) _ _ => "regex"
  | rules _ _ => "rules"

/-- What a command line asks for. -/
structure Arguments where
  config : Option String
  debug : Bool
  logFile : Option String
  root : String
  task : Task
  deriving DecidableEq, Repr

/-! ## §2 Reading -/

/-- The task of a search. -/
def searchTask (method : Method) (s : Sorted) : Task :=
  .search method (s.words .pattern).head? (if s.has .directories then .directory else .file)

/-- The task of rules. -/
def rulesTask (s : Sorted) : Task := .rules (s.words .ruleFiles) (s.has .haltOnBlank)

/-- The commands: the name of each, the grammar of what follows it, and the task. -/
def commands : List (String × Grammar × (Sorted → Task)) := [
  ("wildcard", .search, searchTask .wildcard),
  ("regex", .search, searchTask .plainRegex),
  ("rules", .rules, rulesTask)]

/-- What a command line asks for, unless it ends in another way. -/
def Arguments.ofLine (line : List String) : Except Exit Arguments := do
  let own ← Grammar.program.sort line
  match own.words .command with
  | [] => throw .usage
  | name :: rest =>
    match commands.find? fun c => c.1 = name with
    | none => throw .usage
    | some (_, grammar, task) =>
      let sorted ← grammar.sort rest
      if !own.extras.isEmpty || !sorted.extras.isEmpty then throw .usage
      return {
        config := own.value? .config
        debug := own.has .debug
        logFile := own.value? .logFile
        root := (sorted.words .root).headD ""
        task := task sorted }

/-! ## §3 Exits -/

namespace Exit

/-- The exit code of a line that is not carried out. -/
def code : Exit → Nat
  | usage => 2
  | _ => 0

/-- The version of the program. -/
def versionText : String := s!"{programName} 1.0.0"

/-- What is written for a line that is not carried out. -/
def output : Exit → String
  | version => versionText ++ "\n"
  | _ => ""

end Exit

end TreeSift
