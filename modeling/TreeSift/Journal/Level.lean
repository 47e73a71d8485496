/-
  TreeSift.Journal.Level — how grave a record is.

  Levels have numbers and names. A name is read in any case, with blanks around
  it.
-/
import TreeSift.Text.Blank
import TreeSift.Text.Quoted
import TreeSift.Text.Upper

namespace TreeSift

/-- How grave a record is. -/
inductive Level where
  | debug
  | info
  | warning
  | error
  | critical
  deriving DecidableEq, Repr

/-- Why something is not a level. -/
inductive LevelError where
  /-- No level has this name, given trimmed and in upper case. -/
  | unknownName (name : String)
  /-- No level has this value, given as it is displayed. -/
  | unknownValue (shown : String)
  deriving DecidableEq, Repr

namespace LevelError

/-- An error in words; an unknown name is shown as it is, between quotes. -/
def message : LevelError → String
  | unknownName name => Text.quoted name
  | unknownValue shown => s!"{shown} is not a valid LogLevel"

/-- The name of the kind of an error. -/
def name : LevelError → String
  | unknownName _ => "KeyError"
  | unknownValue _ => "ValueError"

end LevelError

namespace Level

/-- All levels, the least grave one first. -/
def all : List Level := [debug, info, warning, error, critical]

/-- The number of a level. -/
def number : Level → Nat
  | debug => 10
  | info => 20
  | warning => 30
  | error => 40
  | critical => 50

/-- The name of a level. -/
def name : Level → String
  | debug => "DEBUG"
  | info => "INFO"
  | warning => "WARNING"
  | error => "ERROR"
  | critical => "CRITICAL"

/-- The level of a number. -/
def ofNumber (n : Int) : Except LevelError Level :=
  match all.find? fun l => (l.number : Int) = n with
  | some l => .ok l
  | none => .error (.unknownValue (toString n))

/-- The level that a text names. -/
def ofText (text : String) : Except LevelError Level :=
  let name := Text.upper (Text.trim text)
  match all.find? fun l => l.name = name with
  | some l => .ok l
  | none => .error (.unknownName name)

theorem ofNumber_number (l : Level) : ofNumber l.number = .ok l := by cases l <;> rfl

end Level

end TreeSift
