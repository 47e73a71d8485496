/-
  TreeSift.Settings.Basic — settings in layers.

  Settings come from five sources, each with a layer of its own; a source has none
  before it has given anything. A value that is asked for is taken from the highest
  layer that has one; the absent value does not count. Writing changes one layer only.

    §1 Sources   `Source`
    §2 Settings  `Settings`, `Settings.get?`, `Settings.write`
    §3 Defaults  `Settings.defaults`
-/
import TreeSift.Keyed
import TreeSift.Settings.Layer

namespace TreeSift

/-! ## §1 Sources -/

/-- Where settings come from. -/
inductive Source where
  | defaults
  | file
  | environment
  | arguments
  | runtime
  deriving DecidableEq, Repr

namespace Source

/-- The precedence of a source. -/
def rank : Source → Nat
  | defaults => 1
  | file => 2
  | environment => 3
  | arguments => 4
  | runtime => 5

/-- The sources, those that prevail first. -/
def descending : List Source := [.runtime, .arguments, .environment, .file, .defaults]

end Source

/-! ## §2 Settings -/

/-- The layers of settings, in the order in which they came in. -/
structure Settings where
  filled : Keyed Source Layer

namespace Settings

/-- The layer of a source, without settings if there is none. -/
def held (s : Settings) (source : Source) : Layer := (Keyed.get? source s.filled).getD .empty

/-- The settings in the layer of a source. -/
def layer (s : Settings) (source : Source) : Mapping := (s.held source).content

/-- The sources that have a layer, those that prevail first. -/
def sources (s : Settings) : List Source :=
  Source.descending.filter fun source => (Keyed.keys s.filled).contains source

/-- A value, unless it is the absent one. -/
def present (v : Value) : Option Value := if v.isNull then none else some v

/-- The value that a source gives to a key. -/
def from? (s : Settings) (key : String) (source : Source) : Option Value :=
  ((Value.mapping (s.layer source)).at? (keyPath key)).bind present

/-- The value of a key. -/
def get? (s : Settings) (key : String) : Option Value := s.sources.findSome? (s.from? key)

/-- The value of a key, or another one where there is none. -/
def getD (s : Settings) (key : String) (default : Value) : Value := (s.get? key).getD default

/-- Replaces the layer of a source. -/
def fill (s : Settings) (source : Source) (l : Layer) : Settings :=
  ⟨Keyed.set source l s.filled⟩

/-- Replaces the layer of a source by settings none of which stand at several positions. -/
def setLayer (s : Settings) (source : Source) (m : Mapping) : Settings := s.fill source ⟨m, []⟩

theorem held_fill_self (s : Settings) (source : Source) (l : Layer) :
    (s.fill source l).held source = l := by
  rw [held, fill, Keyed.get?_set_self, Option.getD_some]

theorem held_fill_ne (s : Settings) {source other : Source} (l : Layer) (h : other ≠ source) :
    (s.fill source l).held other = s.held other := by
  rw [held, held, fill, Keyed.get?_set_ne l s.filled h.symm]

/-- Writes a value under a key into the layer of a source, which is made if it is not
there: whether that comes to an end, and the settings by then. -/
def write (s : Settings) (key : String) (v : Value) (source : Source) :
    Except PlacingError Unit × Settings :=
  let (result, l) := (s.held source).write key v
  (result, s.fill source l)

/-- The settings with a value under a key in the layer of a source. -/
def set (s : Settings) (key : String) (v : Value) (source : Source) :
    Except PlacingError Settings :=
  (s.write key v source).1.map fun _ => (s.write key v source).2

/-! ## §3 Defaults -/

/-- The key that all settings of the program are under. -/
def rootKey : String := "fssearch"

/-- The key of the level of the program's logger. -/
def levelKey : String := "fssearch.logging.level"

/-- The key of the file that records are written to. -/
def logFileKey : String := "fssearch.logging.file"

/-- The key that says whether rules end at a blank line. -/
def haltKey : String := "fssearch.rules.halt_on_blank_line"

/-- The key of the encoding of files of rules. -/
def encodingKey : String := "fssearch.rules.encoding"

/-- What holds where nothing else is set. -/
def defaultLayer : Mapping :=
  [(.text rootKey, .mapping [
    (.text "logging", .mapping [
      (.text "level", .text "WARNING"),
      (.text "file", .null)]),
    (.text "rules", .mapping [
      (.text "halt_on_blank_line", .flag false),
      (.text "encoding", .text "utf-8")])])]

/-- The settings before anything has been read. -/
def defaults : Settings := ⟨[(.defaults, ⟨defaultLayer, []⟩)]⟩

end Settings

end TreeSift
