/-
  TreeSift.Command.Run — carrying out what a command line asks for.

  A run reads the settings, makes the program's logger and carries out the task.
  A task prints when all that can fail is behind it. A failure is recorded and
  reported as an error; what has been printed by then stays printed.

    §1 Worlds    `World`
    §2 Settings  `Arguments.settings`
    §3 Progress  `Progress`, `Attempt`
    §4 Tasks     `runSearch`, `runRules`
    §5 Runs      `Arguments.attempt`
    §6 Reports   `Report`, `runLine`
-/
import TreeSift.Command.Arguments
import TreeSift.Command.Failure
import TreeSift.Rules.Run

namespace TreeSift

/-! ## §1 Worlds -/

/-- What a run finds: the tree that is searched, the files of the current
directory, the variables, and the time that records are given. -/
structure World where
  tree : Tree
  disk : Disk
  environment : Environment
  time : String

/-! ## §2 Settings -/

namespace Arguments

/-- The file of settings that is named; an empty name names none. -/
def settingsFile? (a : Arguments) : Option String := a.config.filter (· ≠ "")

/-- Whether rules end at the first blank line because the line says so. -/
def halts (a : Arguments) : Bool :=
  match a.task with
  | .rules _ halt => halt
  | .search _ _ _ => false

/-- The settings that the line itself makes, each with its key. -/
def ownSettings (a : Arguments) : List (String × Value) :=
  (if a.debug then [(Settings.levelKey, .text "DEBUG")] else [])
    ++ (match a.logFile with
      | none => []
      | some path => if path = "" then [] else [(Settings.logFileKey, .text path)])
    ++ (if a.halts then [(Settings.haltKey, .flag true)] else [])

/-- The layer of the settings that the line makes. -/
def ownLayer (a : Arguments) : Layer :=
  a.ownSettings.foldl (fun l (key, v) => (l.write key v).2) .empty

/-- The settings of a run. -/
def settings (a : Arguments) (w : World) : Except CommandFailure Settings := do
  if let some path := a.settingsFile? then
    if (w.disk.look path).size?.isNone then throw (.noSettingsFile path)
  let s ← (Settings.load w.disk a.settingsFile? w.environment).mapError .settings
  return s.fill .arguments a.ownLayer

end Arguments

/-! ## §3 Progress -/

/-- What a run has brought about so far. -/
structure Progress where
  printed : String
  journal : Journal

namespace Progress

/-- The progress of a run that has just begun. -/
def start : Progress := ⟨"", .empty⟩

/-- Prints a line. -/
def print (p : Progress) (line : String) : Progress :=
  { p with printed := p.printed ++ (line ++ "\n") }

/-- Prints the members of a set in order of their code points, each on a line. -/
def printPaths (p : Progress) (paths : PathSet) : Progress := paths.sorted.foldl print p

end Progress

/-- How far a task came: whether it failed, and the progress. -/
abbrev Attempt := Except CommandFailure Unit × Progress

/-! ## §4 Tasks -/

/-- Carries out a search and prints what it finds. -/
def runSearch (t : Tree) (root : String) (method : Method) (pattern : Option String)
    (target : Target) (p : Progress) : Attempt :=
  match pattern with
  | none =>
    match checkRoot t (.path root) with
    | .error e => (.error (.search e), p)
    | .ok _ => (.error (.noPattern method), p)
  | some pattern =>
    match searchRecorded t method ⟨some (.path root), some pattern, some target.name⟩ p.journal with
    | (.error e, journal) => (.error (.search e), { p with journal })
    | (.ok found, journal) => (.ok (), Progress.printPaths { p with journal } found.paths)

/-- The encoding of files of rules. -/
def Settings.ruleEncoding (s : Settings) : Except CommandFailure String :=
  match s.getD Settings.encodingKey (.text "utf-8") with
  | .scalar (.text name) => .ok name
  | v => .error (.encodingKind v.kindName)

/-- How rules are carried out. -/
def Settings.ruling (s : Settings) : Ruling Unit :=
  ⟨(s.getD Settings.haltKey (.flag false)).isTruthy, none⟩

/-- The rules of a file; that the file is there and not too large is found out
before its encoding is looked at. -/
def Settings.readRules (s : Settings) (d : Disk) (path : String) :
    Except CommandFailure (List String) := do
  let there ← (ruleFileAt d path).mapError fun e => .ruleFile (.file e)
  (rulesAt path (← s.ruleEncoding) there).mapError .ruleFile

/-- Carries out the rules of files, one file after the other; `opened` is the
disk to which the records written so far have not been added. -/
def runFiles (w : World) (s : Settings) (opened : Disk) (root : String) :
    List String → Session Unit → Except CommandFailure Unit × Session Unit
  | [], session => (.ok (), session)
  | path :: rest, session =>
    match s.readRules (opened.afterRecords w.time session.journal.written) path with
    | .error e => (.error e, session)
    | .ok rules =>
      match s.ruling.run w.tree (some (.path root)) (some (.lines (rules.map some))) session with
      | (.error e, session) => (.error (.search e), session)
      | (.ok (), session) => runFiles w s opened root rest session

/-- Prints what has been gathered: the files and the directories, each kind under
a head. -/
def Progress.printGathered (p : Progress) (session : Session Unit) : Progress :=
  (((p.print "[files]").printPaths session.files).print "[directories]").printPaths
    session.directories

/-- Carries out the rules of files and prints what they gather. -/
def runRules (w : World) (s : Settings) (opened : Disk) (root : String) (files : List String)
    (p : Progress) : Attempt :=
  match runFiles w s opened root files (Session.start p.journal ()) with
  | (.error e, session) => (.error e, { p with journal := session.journal })
  | (.ok (), session) =>
    (.ok (), Progress.printGathered { p with journal := session.journal } session)

/-! ## §5 Runs -/

namespace Arguments

/-- Carries out a task with settings and the disk on which files for records have
been opened. -/
def runTask (a : Arguments) (w : World) (s : Settings) (opened : Disk) (p : Progress) : Attempt :=
  match a.task with
  | .search method pattern target => runSearch w.tree a.root method pattern target p
  | .rules files _ => runRules w s opened a.root files p

/-- The fields of the record at the beginning of a run. -/
def context (a : Arguments) : Context :=
  [("command", .text a.task.command), ("root", .text a.root)]

/-- The progress when a task begins: the program's logger is shared, and the
beginning of the run is recorded. -/
def begin (a : Arguments) (logger : Logger) (j : Journal) : Progress :=
  { Progress.start with
    journal := (j.share (some logger)).info programName "Running command" a.context }

/-- Carries out what a line asks for: how far it came, and the disk before the
records were written. -/
def attempt (a : Arguments) (w : World) : Attempt × Disk :=
  match a.settings w with
  | .error e => ((.error e, .start), w.disk)
  | .ok s =>
    match s.logger w.disk .empty with
    | .error e => ((.error (.logger e), .start), w.disk)
    | .ok (logger, j, opened) => (a.runTask w s opened (a.begin logger j), opened)

/-- Records a failure with the shared logger. -/
def recordFailure (a : Arguments) (e : CommandFailure) (j : Journal) : Journal :=
  let j := (j.obtain programName).2
  if e.isKnown then j.error programName "Command failed" [("error", .text e.name)]
  else j.failure programName "Unexpected error" e.name e.message
    [("command", .text a.task.command)]

end Arguments

/-! ## §6 Reports -/

/-- What a run leaves. -/
structure Report where
  code : Nat
  output : String
  errors : String
  disk : Disk

/-- The line that tells of a failure. -/
def CommandFailure.line (e : CommandFailure) : String :=
  (if e.isKnown then "Error: " else "Unexpected error: ") ++ e.message ++ "\n"

/-- What the console shows of the records of a journal. -/
def consoleText (time : String) (j : Journal) : String :=
  String.join ((j.recordsOf .console).map (Record.logForm time))

/-- Carries out what a line asks for and reports on it. -/
def Arguments.run (a : Arguments) (w : World) : Report :=
  match a.attempt w with
  | ((.ok (), p), opened) => {
      code := 0
      output := p.printed
      errors := consoleText w.time p.journal
      disk := opened.afterRecords w.time p.journal.written }
  | ((.error e, p), opened) =>
    let j := a.recordFailure e p.journal
    { code := 1
      output := p.printed
      errors := consoleText w.time j ++ e.line
      disk := opened.afterRecords w.time j.written }

/-- Carries out a command line, unless it ends in another way. -/
def runLine (w : World) (line : List String) : Except Exit Report :=
  (Arguments.ofLine line).map fun a => a.run w

end TreeSift
