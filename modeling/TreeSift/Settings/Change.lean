/-
  TreeSift.Settings.Change — what is done to settings.

  Settings change when a value is written under a key and when a layer is taken from
  a file. A change that is refused says why; what it leaves are settings all the same.

    §1 Refusals  `Settings.Refusal`
    §2 Changes   `Settings.Change`, `Change.carryOut`, `Settings.after`
-/
import TreeSift.Settings.File

namespace TreeSift.Settings

/-! ## §1 Refusals -/

/-- Why a change is refused. -/
inductive Refusal where
  | placing (e : PlacingError)
  | file (e : SettingsFailure)
  deriving DecidableEq, Repr

/-! ## §2 Changes -/

/-- What is done to settings. -/
inductive Change where
  /-- Writes a value under a key into the layer of a source. -/
  | set (key : String) (v : Value) (source : Source)
  /-- Takes the layer of a source from a file, as the disk is by then. -/
  | load (d : Disk) (path : String) (source : Source)

namespace Change

/-- The source whose layer changes. -/
def source : Change → Source
  | set _ _ source => source
  | load _ _ source => source

/-- Carries a change out: whether that comes to an end, and the settings by then. -/
def carryOut (s : Settings) : Change → Except Refusal Unit × Settings
  | set key v source =>
    let (result, s) := s.write key v source
    (result.mapError .placing, s)
  | load d path source =>
    match s.loadFile d path source with
    | .error e => (.error (.file e), s)
    | .ok s => (.ok (), s)

end Change

/-- The settings after changes, also after those that are refused. -/
def after (s : Settings) (changes : List Change) : Settings :=
  changes.foldl (fun s c => (c.carryOut s).2) s

end TreeSift.Settings
