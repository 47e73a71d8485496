/-
  TreeSift.Settings.File — settings out of a file.

  A file of settings is a structured text in UTF-8 that holds a mapping, or
  nothing. The key that all settings are under may be left out. A file replaces
  the whole layer of its source.

    §1 Errors  `SettingsError`, `SettingsFailure`
    §2 Layers  `Layer.ofFile`, `fileLayer`
    §3 Files   `Settings.loadFile`, `Settings.load`
-/
import TreeSift.Disk
import TreeSift.Document.Pieces
import TreeSift.Encoding.Parts
import TreeSift.Search.Error
import TreeSift.Settings.Environment
import TreeSift.Text.Line

namespace TreeSift

/-! ## §1 Errors -/

/-- What is wrong with a file of settings; each names the path concerned. -/
inductive SettingsError where
  | notFound (path : String)
  | unreadable (path reason : String)
  | malformed (path : String)
  | noMapping (path : String)
  deriving DecidableEq, Repr

namespace SettingsError

/-- An error in words; what a reader says of a text that breaks the rules of the format,
after a colon, is left out. -/
def message : SettingsError → String
  | notFound path => s!"Config file not found: {path}"
  | unreadable path reason => s!"Error reading config {path}: {reason}"
  | malformed path => s!"YAML parse error in {path}"
  | noMapping path => s!"Invalid config format in {path}: expected a mapping"

/-- The code of an error. -/
def code : SettingsError → ErrorCode
  | notFound _ => .notFound
  | unreadable _ _ => .internalError
  | _ => .invalidInput

end SettingsError

/-- Why no settings could be read. -/
inductive SettingsFailure where
  | file (e : SettingsError)
  /-- The path begins with the directory of a user who is not known to have one. -/
  | noHome
  /-- The bytes of the file are not UTF-8. -/
  | undecodable (f : DecodingFault)
  /-- The text is no value although it keeps to the format. -/
  | defect (f : Document.Defect)
  deriving DecidableEq, Repr

namespace SettingsFailure

/-- The name of the kind of a failure. -/
def name : SettingsFailure → String
  | file _ => "ConfigError"
  | noHome => "RuntimeError"
  | undecodable _ => "UnicodeDecodeError"
  | defect f => f.name

/-- A failure in words. -/
def message : SettingsFailure → String
  | file e => e.message
  | noHome => "Could not determine home directory."
  | undecodable f => f.message
  | defect f => f.message

/-- The code of a failure, if its kind has codes. -/
def code? : SettingsFailure → Option ErrorCode
  | file e => some e.code
  | _ => none

end SettingsFailure

/-! ## §2 Layers -/

/-- Puts settings under the key that all are under, unless something is there. -/
def underRoot (m : Mapping) : Mapping :=
  match Mapping.get? (.text Settings.rootKey) m with
  | some _ => m
  | none => [(.text Settings.rootKey, .mapping m)]

/-- The layer that a value gives which was read from a path. -/
def layerOfValue (path : String) : Value → Except SettingsError Mapping
  | .mapping m => .ok (underRoot m)
  | .scalar .null => .ok (underRoot [])
  | _ => .error (.noMapping path)

/-- Puts ties where `underRoot` puts the settings that they are in. -/
def tiesUnderRoot (m : Mapping) (ties : Ties) : Ties :=
  match Mapping.get? (.text Settings.rootKey) m with
  | some _ => ties
  | none => ties.map fun tie => tie.map (.entry (.text Settings.rootKey) :: ·)

/-- The failure that a fault of a text is which was read from a path. -/
def SettingsFailure.ofFault (path : String) (f : Document.Fault) : SettingsFailure :=
  f.defect?.elim (.file (.malformed path)) .defect

/-- The text of content in UTF-8 that is read from a path as a stream: what is wrong with
the text before bytes that are none comes before what is wrong with these. -/
def textOfContent (path : String) (content : ByteArray) : Except SettingsFailure String :=
  match Encoding.decodeByParts content with
  | .ok text => .ok (Text.plainBreaks text)
  | .error f =>
    match Document.faultOfPart f.before with
    | some earlier => .error (.ofFault path earlier)
    | none => .error (.undecodable f.fault)

/-- The text of what is found at a place to which a path leads. -/
def textAt (path place : String) : Glance → Except SettingsFailure String
  | .nothing => .error (.file (.notFound path))
  | .locked _ => .error (.file (.unreadable path (deniedMessage (shownPath place))))
  | .file content => textOfContent path content

/-- The text of a file of settings. -/
def settingsText (d : Disk) (path : String) : Except SettingsFailure String :=
  match d.expand path with
  | none => .error .noHome
  | some place => textAt path place (d.look place)

/-- The layer that a text gives which was read from a path. -/
def Layer.ofText (path text : String) : Except SettingsFailure Layer :=
  match Document.readByPieces text with
  | .ok v => ((layerOfValue path v).map fun m =>
      ⟨m, tiesUnderRoot v.entries (Document.ties text)⟩).mapError .file
  | .error f => .error (.ofFault path f)

/-- The layer that a file gives. -/
def Layer.ofFile (d : Disk) (path : String) : Except SettingsFailure Layer := do
  Layer.ofText path (← settingsText d path)

/-- The settings that a file gives. -/
def fileLayer (d : Disk) (path : String) : Except SettingsFailure Mapping :=
  (Layer.ofFile d path).map Layer.content

/-! ## §3 Files -/

namespace Settings

/-- Takes the layer of a source from a file. -/
def loadFile (s : Settings) (d : Disk) (path : String) (source : Source) :
    Except SettingsFailure Settings :=
  (Layer.ofFile d path).map (s.fill source)

/-- The settings of a run: the defaults, a file if one is named, and variables. -/
def load (d : Disk) (file : Option String) (env : Environment) :
    Except SettingsFailure Settings := do
  let named := file.filter (· ≠ "")
  let s ← match named with
    | none => .ok defaults
    | some path => defaults.loadFile d path .file
  return s.setLayer .environment (environmentLayer env)

end Settings

end TreeSift
