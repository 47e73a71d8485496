/-
  TreeSift.Journal.Context — what a record says besides its message.

  A context is a list of fields, each a key with a value. Contexts are merged
  one after another: a key keeps the position of its first field and takes the
  value of its last one. A record shows its message and then, after a bar, the
  fields of its context.
-/
import TreeSift.Keyed

namespace TreeSift

/-- The value of a field. -/
inductive FieldValue where
  | nothing
  | flag (b : Bool)
  | number (n : Int)
  | text (s : String)
  deriving DecidableEq, Repr

namespace FieldValue

/-- A value as a record shows it. -/
def shown : FieldValue → String
  | nothing => "None"
  | flag true => "True"
  | flag false => "False"
  | number n => toString n
  | text s => s

end FieldValue

/-- The fields that a record shows. -/
abbrev Context := Keyed String FieldValue

namespace Context

/-- Contexts merged, the outermost one first. -/
def merge (contexts : List Context) : Context := contexts.foldl Keyed.update []

/-- A message with a context after it; without fields there is no bar. -/
def render (message : String) (c : Context) : String :=
  if c.isEmpty then message
  else message ++ " | " ++ " ".intercalate (c.map fun f => s!"{f.1}={f.2.shown}")

end Context

end TreeSift
