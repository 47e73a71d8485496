/-
  TreeSift.Settings.Environment — settings from environment variables.

  A variable whose name starts as the program's variables do names a section and
  a key in it: what follows, in lower case, is cut at its first underscore. Its
  text is read as a truth value, a number or a plain text.

    §1 Texts   `settingValue`
    §2 Names   `variablePlace?`
    §3 Layers  `environmentLayer`
-/
import TreeSift.Decimal.Integer
import TreeSift.Decimal.Real
import TreeSift.Keyed
import TreeSift.Settings.Basic
import TreeSift.Text.Lower

namespace TreeSift

/-! ## §1 Texts -/

/-- The value that the text of a variable stands for. -/
def settingValue (text : String) : Value :=
  let word := Text.lower text
  if ["true", "yes", "on"].contains word then .flag true
  else if ["false", "no", "off"].contains word then .flag false
  else
    match Decimal.readInteger text, Decimal.readReal text with
    | some n, _ => .scalar (.int n)
    | none, some x => .scalar (.real x)
    | none, none => .text text

/-! ## §2 Names -/

/-- How the names of the program's variables start. -/
def variableStart : String := "FSSEARCH_"

/-- What follows the start of a text, if the text starts so. -/
def afterStart? : List Char → List Char → Option (List Char)
  | [], s => some s
  | c :: start, d :: s => if c = d then afterStart? start s else none
  | _ :: _, [] => none

/-- The section and the key that the name of a variable stands for. -/
def variablePlace? (name : String) : Option (String × String) := do
  let rest ← afterStart? variableStart.toList name.toList
  let lowered := (Text.lower (String.ofList rest)).toList
  let sectionName := lowered.takeWhile (· ≠ '_')
  let key := (lowered.dropWhile (· ≠ '_')).drop 1
  if sectionName.isEmpty || key.isEmpty then none
  else some (String.ofList sectionName, String.ofList key)

/-! ## §3 Layers -/

/-- Variables with their texts. -/
abbrev Environment := Keyed String String

/-- Writes a value under a key of a section. -/
def setInSection (sectionName key : String) (v : Value) (m : Mapping) : Mapping :=
  let inner := match Mapping.get? (.text sectionName) m with
    | some (.mapping entries) => entries
    | _ => []
  Mapping.set (.text sectionName) (.mapping (Mapping.set (.text key) v inner)) m

/-- The sections that variables give, each variable prevailing over those before it. -/
def environmentSections (env : Environment) : Mapping :=
  env.foldl (fun m (name, text) =>
    match variablePlace? name with
    | none => m
    | some (sectionName, key) => setInSection sectionName key (settingValue text) m) []

/-- The layer that variables give. -/
def environmentLayer (env : Environment) : Mapping :=
  let sections := environmentSections env
  if sections.isEmpty then [] else [(.text Settings.rootKey, .mapping sections)]

end TreeSift
