/-
  TreeSift.Rules.Session — what rules work on.

  A session holds two sets of paths, the files and the directories gathered so
  far, the journal, and whatever a custom rule remembers.
-/
import TreeSift.PathSet.Basic
import TreeSift.Rules.Rule

namespace TreeSift

/-- What rules work on; `σ` is what custom rules remember. -/
structure Session (σ : Type) where
  files : PathSet
  directories : PathSet
  journal : Journal
  memory : σ

namespace Session

variable {σ : Type}

/-- A session in which nothing has been gathered. -/
def start (journal : Journal) (memory : σ) : Session σ := ⟨.empty, .empty, journal, memory⟩

/-- The set that a target belongs to. -/
def gathered (s : Session σ) : Target → PathSet
  | .file => s.files
  | .directory => s.directories

/-- Changes the set that a target belongs to. -/
def modifyGathered (s : Session σ) (target : Target) (f : PathSet → PathSet) : Session σ :=
  match target with
  | .file => { s with files := f s.files }
  | .directory => { s with directories := f s.directories }

theorem gathered_modifyGathered_self (s : Session σ) (target : Target) (f : PathSet → PathSet) :
    (s.modifyGathered target f).gathered target = f (s.gathered target) := by
  cases target <;> rfl

theorem gathered_modifyGathered_ne (s : Session σ) {target other : Target} (f : PathSet → PathSet)
    (h : other ≠ target) : (s.modifyGathered target f).gathered other = s.gathered other := by
  cases target <;> cases other <;> simp_all [gathered, modifyGathered]

/-- Adds paths to the set of a target. -/
def addPaths (s : Session σ) (target : Target) (paths : List String) : Session σ :=
  s.modifyGathered target (·.insertAll paths)

/-- Removes paths from the set of a target. -/
def removePaths (s : Session σ) (target : Target) (paths : List String) : Session σ :=
  s.modifyGathered target (·.eraseAll paths)

/-- Empties the set of a target, or both. -/
def reset (s : Session σ) : Option Target → Session σ
  | some target => s.modifyGathered target fun _ => .empty
  | none => { s with files := .empty, directories := .empty }

/-- Writes a record for debugging with the logger of the program. -/
def debug (s : Session σ) (message : String) (context : Context) : Session σ :=
  { s with journal := s.journal.debug programName message context }

end Session

end TreeSift
