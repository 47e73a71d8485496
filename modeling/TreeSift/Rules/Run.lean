/-
  TreeSift.Rules.Run — carrying out a list of rules.

  The lines of a list are carried out in order. A rule searches below the root
  and adds what it finds to the set of its target, or removes it; a line that
  is neither a rule nor ignorable is handed to the custom rule. The first
  failure ends the run, and what earlier lines did stays. While a list is
  carried out, every record shows the root.

    §1 Custom rules  `CustomRule`, `Ruling`
    §2 One rule      `Rule.apply`
    §3 Lines         `Ruling.runLines`
    §4 Lists         `RuleList`, `Ruling.run`
-/
import TreeSift.Rules.Session
import TreeSift.Text.Line

namespace TreeSift

/-! ## §1 Custom rules -/

/-- How far a run came: whether it failed, and the session it leaves. -/
abbrev Outcome (σ : Type) := Except Failure Unit × Session σ

/-- What is done with a line that is no rule, given the root and the line. -/
abbrev CustomRule (σ : Type) := String → String → Session σ → Outcome σ

/-- How lists of rules are carried out. -/
structure Ruling (σ : Type) where
  /-- Whether a list ends at its first blank line or comment. -/
  haltOnBlank : Bool
  custom : Option (CustomRule σ)

variable {σ : Type}

/-! ## §2 One rule -/

/-- The request that a rule makes below a root. -/
def Rule.request (r : Rule) (root : String) : Request :=
  ⟨some (.path root), some r.pattern, some r.target.name⟩

/-- What a rule does with the paths that it has found. -/
def Rule.gather (r : Rule) (paths : PathSet) (s : Session σ) : Session σ :=
  match r.action with
  | .add => s.addPaths r.target paths.toList
  | .remove => s.removePaths r.target paths.toList

/-- The fields of the record of a rule. -/
def Rule.context (r : Rule) (paths total : PathSet) : Context := [
  ("rule", .text r.line), ("matches", .number paths.size), ("total", .number total.size)]

/-- Carries out a rule. -/
def Rule.apply (r : Rule) (t : Tree) (root : String) (s : Session σ) : Outcome σ :=
  match searchRecorded t r.method (r.request root) s.journal with
  | (.error e, journal) => (.error e, { s with journal })
  | (.ok found, journal) =>
    let s := r.gather found.paths { s with journal }
    (.ok (), { s with
      journal := s.journal.debugShared "Applied rule"
        (r.context found.paths (s.gathered r.target)) })

/-! ## §3 Lines -/

namespace Ruling

/-- Hands a line to the custom rule, if there is one. -/
def delegate (g : Ruling σ) (root line : String) (s : Session σ) : Outcome σ :=
  match g.custom with
  | none => (.ok (), s)
  | some custom => custom root line s

/-- Carries out a trimmed line that is not ignorable. -/
def runLine (g : Ruling σ) (t : Tree) (root line : String) (s : Session σ) : Outcome σ :=
  match Rule.parse? (some line) with
  | some r => r.apply t root s
  | none => g.delegate root line (s.debug "Delegating custom rule" [("rule", .text line)])

/-- Carries out lines in order. -/
def runLines (g : Ruling σ) (t : Tree) (root : String) :
    List (Option String) → Session σ → Outcome σ
  | [], s => (.ok (), s)
  | raw :: rest, s =>
    let line := Text.trim (raw.getD "")
    if isIgnorable line then
      if g.haltOnBlank then (.ok (), s.debug "Stopping at blank or comment line" [])
      else runLines g t root rest s
    else
      match g.runLine t root line s with
      | (.error e, s) => (.error e, s)
      | (.ok (), s) => runLines g t root rest s

end Ruling

/-! ## §4 Lists -/

/-- A list of rules: lines, some of which may be absent, or a text of lines. -/
inductive RuleList where
  | lines (lines : List (Option String))
  | text (text : String)
  deriving DecidableEq, Repr

/-- The lines of a list. -/
def RuleList.toLines : RuleList → List (Option String)
  | .lines ls => ls
  | .text whole => (Text.lines whole).map some

namespace Ruling

/-- Carries out a list below a root that has been checked. -/
def runBelow (g : Ruling σ) (t : Tree) (root : String) (rules : RuleList) (s : Session σ) :
    Outcome σ :=
  let journal := (s.journal.obtain programName).2.push [("root", .text root)]
  let (result, s) := g.runLines t root rules.toLines { s with journal }
  (result, { s with journal := s.journal.pop })

/-- Checks the arguments of a run: the root and the rules have to be there, and
the root has to be a directory. -/
def check (t : Tree) (root : Option Root) (rules : Option RuleList) :
    Except Failure (String × RuleList) := do
  let root ← (required "root" root).mapError .search
  let rules ← (required "rules" rules).mapError .search
  let root ← checkRoot t root
  return (root, rules)

/-- Carries out a list of rules below a root. -/
def run (g : Ruling σ) (t : Tree) (root : Option Root) (rules : Option RuleList)
    (s : Session σ) : Outcome σ :=
  match check t root rules with
  | .error e => (.error e, s)
  | .ok (root, rules) => g.runBelow t root rules s

end Ruling

end TreeSift
