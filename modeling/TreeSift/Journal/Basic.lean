/-
  TreeSift.Journal.Basic — records, loggers and what they share.

  A logger writes records under a name. All loggers of one name share a channel:
  a level, below which nothing is written, and the sinks that every record goes
  to. Making a logger replaces the sinks of its name. The frames of context that
  have been pushed belong to no logger, and one logger is shared by all parts of
  the program.

    §1 Records   `Record`
    §2 Journals  `Journal`, `Logger`
    §3 Loggers   `create`, `setLevel`, `addSink`
    §4 Frames    `push`, `pop`
    §5 Writing   `write`, `debug`, `info`, `error`, `failure`
    §6 The shared logger
-/
import TreeSift.Journal.Context
import TreeSift.Journal.Level

namespace TreeSift

/-! ## §1 Records -/

/-- What has been written at one moment. -/
structure Record where
  level : Level
  /-- The name of the channel. -/
  name : String
  message : String
  /-- The fields of all frames and of the message itself, merged. -/
  context : Context
  /-- Whether the record tells of a failure whose origin follows it. -/
  traced : Bool
  deriving DecidableEq, Repr

namespace Record

/-- The message of a record with its fields. -/
def text (r : Record) : String := Context.render r.message r.context

/-- The line that stands for the origin of a failure. -/
def trace (r : Record) : String := if r.traced then "Traceback\n" else ""

/-- A record in short form: level, name and text. -/
def shortForm (r : Record) : String := s!"{r.level.name} {r.name} {r.text}\n" ++ r.trace

/-- A record as it stands in a log, after the time it is written at. -/
def logForm (time : String) (r : Record) : String :=
  s!"{time} - {r.name} - {r.level.name} - {r.text}\n" ++ r.trace

end Record

/-- Where records go. -/
inductive Sink where
  /-- Kept for whoever asks. -/
  | kept
  /-- The error output of the program. -/
  | console
  /-- A file. -/
  | file (name : String)
  deriving DecidableEq, Repr

/-! ## §2 Journals -/

/-- What loggers of one name share. -/
structure Channel where
  level : Level
  sinks : List Sink
  deriving DecidableEq, Repr

/-- A logger: its name, and a number that tells it from all others. -/
structure Logger where
  serial : Nat
  name : String
  deriving DecidableEq, Repr

/-- All that loggers share, and what has been written so far. -/
structure Journal where
  channels : Keyed String Channel
  shared : Option Logger
  /-- The contexts that have been pushed, the outermost one first. -/
  frames : List Context
  /-- What has been written, in order, with the sink it went to. -/
  written : List (Sink × Record)
  /-- The number of loggers made so far. -/
  serials : Nat
  deriving Repr

/-- The name of the program, under which it writes its own records. -/
def programName : String := "fssearch"

namespace Journal

/-- A journal before anything has happened. -/
def empty : Journal := ⟨[], none, [], [], 0⟩

/-- The name of the channel of a logger name; the empty name is that of the
topmost channel. -/
def channelName (name : String) : String := if name = "" then "root" else name

/-- The channel of a name. -/
def channel? (j : Journal) (name : String) : Option Channel :=
  Keyed.get? (channelName name) j.channels

/-- Replaces the channel of a name. -/
def setChannel (j : Journal) (name : String) (c : Channel) : Journal :=
  { j with channels := Keyed.set (channelName name) c j.channels }

/-! ## §3 Loggers -/

/-- Makes a logger, with a level and sinks for its name. -/
def create (j : Journal) (name : String) (level : Level) (sinks : List Sink) : Logger × Journal :=
  let logger : Logger := ⟨j.serials, name⟩
  (logger, { j.setChannel name ⟨level, sinks⟩ with serials := j.serials + 1 })

/-- Changes the level of a name. -/
def setLevel (j : Journal) (name : String) (level : Level) : Journal :=
  match j.channel? name with
  | none => j
  | some c => j.setChannel name { c with level }

/-- Adds a sink to a name. -/
def addSink (j : Journal) (name : String) (sink : Sink) : Journal :=
  match j.channel? name with
  | none => j
  | some c => j.setChannel name { c with sinks := c.sinks ++ [sink] }

/-! ## §4 Frames -/

/-- Pushes a context, which every record shows from now on. -/
def push (j : Journal) (c : Context) : Journal :=
  { j with frames := j.frames ++ [Keyed.update [] c] }

/-- Drops the context that was pushed last. -/
def pop (j : Journal) : Journal := { j with frames := j.frames.dropLast }

/-- Dropping a context leaves things as they were before it was pushed. -/
theorem pop_push (j : Journal) (c : Context) : (j.push c).pop = j := by simp [push, pop]

/-! ## §5 Writing -/

/-- Writes a record to all sinks of a name, unless it is below the level. -/
def write (j : Journal) (name : String) (level : Level) (message : String) (context : Context)
    (traced : Bool) : Journal :=
  match j.channel? name with
  | none => j
  | some c =>
    if level.number < c.level.number then j
    else
      let shown := Context.merge (j.frames ++ [context])
      let record : Record := ⟨level, channelName name, message, shown, traced⟩
      { j with written := j.written ++ c.sinks.map fun sink => (sink, record) }

section Levels

variable {j : Journal} {name : String} {c : Channel} {level : Level}

/-- What is below the level of its name is not written. -/
theorem write_of_lt (hc : j.channel? name = some c) (below : level.number < c.level.number)
    (message : String) (context : Context) (traced : Bool) :
    j.write name level message context traced = j := by
  rw [write, hc]
  exact if_pos below

/-- What is not below the level goes to all sinks of its name, as one record. -/
theorem write_of_le (hc : j.channel? name = some c) (enough : c.level.number ≤ level.number)
    (message : String) (context : Context) (traced : Bool) :
    j.write name level message context traced =
      { j with written := j.written ++ c.sinks.map fun sink => (sink,
        ⟨level, channelName name, message, Context.merge (j.frames ++ [context]), traced⟩) } := by
  rw [write, hc]
  exact if_neg (Nat.not_lt.2 enough)

end Levels

/-- To write is to do nothing, or to add one record for every sink of the name. -/
theorem write_cases (j : Journal) (name : String) (level : Level) (message : String)
    (context : Context) (traced : Bool) :
    j.write name level message context traced = j ∨
    ∃ c, j.channel? name = some c ∧ j.write name level message context traced =
      { j with written := j.written ++ c.sinks.map fun sink => (sink,
        ⟨level, channelName name, message, Context.merge (j.frames ++ [context]), traced⟩) } := by
  cases hc : j.channel? name with
  | none =>
    rw [write, hc]
    exact .inl rfl
  | some c =>
    by_cases below : level.number < c.level.number
    · exact .inl (write_of_lt hc below message context traced)
    · exact .inr ⟨c, rfl, write_of_le hc (Nat.not_lt.1 below) message context traced⟩

theorem frames_write (j : Journal) (name : String) (level : Level) (message : String)
    (context : Context) (traced : Bool) :
    (j.write name level message context traced).frames = j.frames := by
  rcases j.write_cases name level message context traced with same | ⟨c, -, grown⟩
  · rw [same]
  · rw [grown]

/-- Writes a record for debugging. -/
def debug (j : Journal) (name message : String) (context : Context) : Journal :=
  j.write name .debug message context false

/-- Writes a record of ordinary progress. -/
def info (j : Journal) (name message : String) (context : Context) : Journal :=
  j.write name .info message context false

/-- Writes a record of an error. -/
def error (j : Journal) (name message : String) (context : Context) : Journal :=
  j.write name .error message context false

/-- Writes a record of a failure, whose kind and message are added to the context. -/
def failure (j : Journal) (name message kind detail : String) (context : Context) : Journal :=
  let context := Keyed.update [] context
  let context := Keyed.set "exception_type" (.text kind) context
  let context := Keyed.set "exception_message" (.text detail) context
  j.write name .error message context true

/-! ## §6 The shared logger -/

/-- The shared logger of a name. One that is not there, or has another name, is
made: it writes warnings to the console. -/
def obtain (j : Journal) (name : String) : Logger × Journal :=
  let make :=
    let (logger, j) := j.create name .warning [.console]
    (logger, { j with shared := some logger })
  match j.shared with
  | none => make
  | some logger => if logger.name = name then (logger, j) else make

/-- To ask for the shared logger is to do nothing, or to make one and share it. -/
theorem obtain_cases (j : Journal) (name : String) :
    (j.obtain name).2 = j ∨ ∃ logger,
      (j.obtain name).2 = { (j.create name .warning [.console]).2 with shared := some logger } := by
  unfold obtain
  cases j.shared with
  | none => exact .inr ⟨_, rfl⟩
  | some logger =>
    by_cases same : logger.name = name
    · exact .inl (by simp [same])
    · exact .inr ⟨(j.create name .warning [.console]).1, by simp [same]⟩

theorem frames_obtain (j : Journal) (name : String) : (j.obtain name).2.frames = j.frames := by
  rcases j.obtain_cases name with same | ⟨logger, made⟩
  · rw [same]
  · rw [made]
    rfl

/-- Makes a logger the shared one, or leaves none. -/
def share (j : Journal) (logger : Option Logger) : Journal := { j with shared := logger }

/-- Writes a record for debugging with the shared logger of the program. -/
def debugShared (j : Journal) (message : String) (context : Context) : Journal :=
  (j.obtain programName).2.debug programName message context

/-- The records that have gone to a sink. -/
def recordsOf (j : Journal) (sink : Sink) : List Record :=
  (j.written.filter fun w => w.1 = sink).map Prod.snd

/-- The same journal with nothing written. -/
def cleared (j : Journal) : Journal := { j with written := [] }

end Journal

end TreeSift
