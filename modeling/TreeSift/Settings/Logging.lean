/-
  TreeSift.Settings.Logging — a logger as the settings want it.

  The settings give the level of the program's logger, by name or by number, and
  perhaps a file that records go to besides the console. The file is opened at
  once, so that it is there even if nothing is ever written.

    §1 Levels   `Level.ofValue`
    §2 Files    `LogFileError`, `openLog`
    §3 Loggers  `Settings.logger`
-/
import TreeSift.Journal.Basic
import TreeSift.Settings.File

namespace TreeSift

/-! ## §1 Levels -/

/-- The level that a value names: a text by name, anything else by number. -/
def Level.ofValue : Value → Except LevelError Level
  | .scalar (.text s) => Level.ofText s
  | v =>
    let number? := match v with
      | .scalar s => s.toInt?
      | _ => none
    match number?.bind fun n => Level.all.find? fun l => (l.number : Int) = n with
    | some l => .ok l
    | none => .error (.unknownValue v.shown)

/-! ## §2 Files -/

/-- Why a file for records cannot be opened; a path is given as it is displayed. -/
inductive LogFileError where
  /-- The value is not a path but something else. -/
  | notAPath (kind : String)
  /-- The path holds the null character. -/
  | nullCharacter
  /-- A directory is in the place of the file. -/
  | directory (shown : String)
  /-- The directory that the file would be in is not there. -/
  | noDirectory (shown : String)
  /-- The file may not be opened. -/
  | denied (shown : String)
  /-- The path is written in bytes that are no text. -/
  | beyond
  deriving DecidableEq, Repr

namespace LogFileError

/-- The name of the kind of an error. -/
def name : LogFileError → String
  | notAPath _ => "TypeError"
  | nullCharacter => "ValueError"
  | directory _ => "IsADirectoryError"
  | noDirectory _ => "FileNotFoundError"
  | denied _ => "PermissionError"
  | beyond => "NotImplementedError"

/-- An error in words. -/
def message : LogFileError → String
  | notAPath kind => s!"expected str, bytes or os.PathLike object, not {kind}"
  | nullCharacter => "embedded null byte"
  | directory shown => "[Errno 21] Is a directory: " ++ shown
  | noDirectory shown => "[Errno 2] No such file or directory: " ++ shown
  | denied shown => "[Errno 13] Permission denied: " ++ shown
  | beyond => "path not described"

end LogFileError

/-- The path that a value is: a text, or bytes for one. -/
def Value.pathText? : Value → Option String
  | .scalar (.text s) => some s
  | .scalar (.bytes bs) => String.fromUTF8? ⟨bs.toArray⟩
  | _ => none

/-- What is wrong with a value that is not the text of a path. -/
def LogFileError.ofValue : Value → LogFileError
  | .scalar (.bytes _) => .beyond
  | v => .notAPath v.kindName

/-- Opens a file for records: it keeps what it holds, and is made if it is not there. -/
def openLog (d : Disk) (v : Value) : Except LogFileError (String × Disk) :=
  match v.pathText? with
  | none => .error (.ofValue v)
  | some path =>
    if path.toList.contains '\x00' then .error .nullCharacter
    else
      match d.names? path with
      | none => .error (.noDirectory v.shown)
      | some names =>
        if d.isDirectory names then .error (.directory v.shown)
        else if d.locked.contains names then .error (.denied v.shown)
        else .ok (path, d.write path (some ((d.file? path).getD .empty)))

/-- A disk after records have been written to its files. -/
def Disk.afterRecords (d : Disk) (time : String) (written : List (Sink × Record)) : Disk :=
  written.foldl (fun d (sink, record) =>
    match sink with
    | .file path =>
      let content := (d.file? path).getD .empty
      d.write path (some (content ++ (record.logForm time).toUTF8))
    | _ => d) d

/-! ## §3 Loggers -/

/-- Why no logger could be made. -/
inductive LoggerFailure where
  | level (e : LevelError)
  | file (e : LogFileError)
  deriving DecidableEq, Repr

namespace LoggerFailure

/-- The name of the kind of a failure. -/
def name : LoggerFailure → String
  | level e => e.name
  | file e => e.name

/-- A failure in words. -/
def message : LoggerFailure → String
  | level e => e.message
  | file e => e.message

end LoggerFailure

namespace Settings

/-- The sinks of the program's logger, and the disk with the file among them. -/
def sinks (s : Settings) (d : Disk) : Except LogFileError (List Sink × Disk) :=
  let file := s.getD logFileKey .null
  if file.isTruthy then (openLog d file).map fun (path, d) => ([.console, .file path], d)
  else .ok ([.console], d)

/-- Makes the program's logger. -/
def logger (s : Settings) (d : Disk) (j : Journal) :
    Except LoggerFailure (Logger × Journal × Disk) := do
  let level ← (Level.ofValue (s.getD levelKey (.text "WARNING"))).mapError .level
  let (sinks, d) ← (s.sinks d).mapError .file
  let (logger, j) := j.create programName level sinks
  return (logger, j, d)

end Settings

end TreeSift
