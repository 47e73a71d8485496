/-
  TreeSift.Main — the program.

  The tree that is searched is described on the standard input, one path a
  line; a slash at the end of a path makes it a directory. Settings, rules and
  records are in files, and settings also in environment variables. Records are
  given the reading of the clock in milliseconds as their time.
-/
import TreeSift.Command.Run

namespace TreeSift

/-- The lines of a stream, after those that have been read, the last one first. -/
partial def readLines (input : IO.FS.Stream) (done : List String) : IO (List String) := do
  let line ← input.getLine
  if line.isEmpty then return done.reverse
  readLines input (line :: done)

/-- The place that a line of a description stands for. -/
def placeOfLine (line : String) : String × Kind :=
  let path := (line.toList.reverse.dropWhile fun c => c == '\n' || c == '\r').reverse
  (String.ofList path, if path.getLast? = some '/' then .directory else .file)

/-- The variables that are written one after the other, each with a null character behind it. -/
def variablesOf (written : ByteArray) : Environment :=
  (Text.pieces '\x00' ((String.fromUTF8? written).getD "").toList).map fun v =>
    (String.ofList (v.takeWhile (· ≠ '=')), String.ofList ((v.dropWhile (· ≠ '=')).drop 1))

/-- The variables that are set. -/
def readEnvironment : IO Environment := do
  try return variablesOf (← IO.FS.readBinFile "/proc/self/environ")
  catch _ => return []

/-- The directories of the users in a table of them. -/
def homesOf (table : String) : Keyed String String :=
  (Text.lines table).filterMap fun line =>
    match (Text.pieces ':' line.toList).map String.ofList with
    | name :: _ :: _ :: _ :: _ :: home :: _ => some (name, home)
    | _ => none

/-- The directories of users, that of the user at hand as the variables give it. -/
def readHomes (env : Environment) : IO (Keyed String String) := do
  let own := ((Keyed.get? "HOME" env).map fun home => ("", home)).toList
  try return own ++ homesOf (← IO.FS.readFile "/etc/passwd")
  catch _ => return own

/-- Adds a file to a disk, if it is there. -/
def readFile (d : Disk) (path : String) : IO Disk := do
  try return d.write path (some (← IO.FS.readBinFile path))
  catch e =>
    match e with
    | .permissionDenied _ _ _ => return (d.write path (some .empty)).lock path
    | _ => return d

/-- Adds files to a disk, as far as they are there. -/
def readFiles (d : Disk) (paths : List String) : IO Disk := paths.foldlM readFile d

/-- The files that a command line names; a file of settings may be in the directory of a
user. -/
def Arguments.files (a : Arguments) (d : Disk) : List String :=
  a.config.toList ++ (a.config.bind d.expand).toList ++ match a.task with
    | .search _ _ _ => []
    | .rules files _ => files

/-- The files that records will go to. -/
def Arguments.logFiles (a : Arguments) (w : World) : List String :=
  match a.settings w with
  | .ok s => ((s.getD Settings.logFileKey .null).pathText?.filter (· ≠ "")).toList
  | .error _ => []

/-- Carries out what a command line asks for. -/
def Arguments.perform (a : Arguments) : IO UInt32 := do
  let described := (← readLines (← IO.getStdin) []).map placeOfLine
  let places := described.filter fun place => place.1 ≠ ""
  let env ← readEnvironment
  let bare : Disk := { Disk.empty with homes := ← readHomes env }
  let d ← readFiles bare (a.files bare)
  let w : World := ⟨Tree.ofPlaces places, d, env, toString (← IO.monoMsNow)⟩
  let logs := a.logFiles w
  let report := a.run { w with disk := ← readFiles d logs }
  for path in logs do
    if let some content := report.disk.file? path then IO.FS.writeBinFile path content
  IO.print report.output
  IO.eprint report.errors
  return report.code.toUInt32

end TreeSift

/-- Runs the program with the words of its command line. -/
def main (line : List String) : IO UInt32 := do
  match TreeSift.Arguments.ofLine line with
  | .ok a => a.perform
  | .error exit =>
    IO.print exit.output
    return exit.code.toUInt32
