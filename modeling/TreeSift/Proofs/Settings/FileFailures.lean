/-
  TreeSift.Proofs.Settings.FileFailures — what goes wrong with a file.

  Settings and rules are both read from files: the file is looked up, the content is
  decoded, the text may be a structured one, and its value has to have a form. Each reader has
  errors of its own that name the file, and each lets other failures through. For every disk
  and path it is said here which failure there is and when, by what is found at the path
  (`SpoilsSettings`, `SpoilsRules`).

  What neither reader makes an error of its own is a text that keeps to the format and is
  no value all the same. Such a defect is told by the tokens of the text or by one node of
  it, and what the node is said to be decides which kind of failure it is.

    §1 Settings `SpoilsSettings`, `loadFile_eq_error_iff`
    §2 Rules    `SpoilsRules`, `readRuleLines_eq_error_iff`
    §3 Defects  `StemsFromText`, `stems_of_spoilsSettings`, `stems_of_spoilsRules`
    §4 Files    `failures_of_a_file`, `failures_let_through`
-/
import TreeSift.Proofs.Document.Faults
import TreeSift.Proofs.Rules.StructuredFile
import TreeSift.Settings.File

namespace TreeSift

variable {path : String} {content : ByteArray}

/-! ## §1 Settings -/

/-- How settings cannot be taken from what is found at a place to which a path leads. -/
inductive SpoilsSettings (path place : String) : Glance → SettingsFailure → Prop
  | missing : SpoilsSettings path place .nothing (.file (.notFound path))
  | locked {size : Nat} : SpoilsSettings path place (.locked size)
      (.file (.unreadable path (deniedMessage (shownPath place))))
  /-- The text of the content is at fault. -/
  | text {content : ByteArray} {s : String} {f : Document.Fault}
      (decoded : String.fromUTF8? content = some s)
      (fault : Document.readByPieces (Text.plainBreaks s) = .error f) :
      SpoilsSettings path place (.file content) (.ofFault path f)
  /-- The text of the content holds something that is no mapping. -/
  | form {content : ByteArray} {s : String} {v : Value}
      (decoded : String.fromUTF8? content = some s)
      (held : Document.readByPieces (Text.plainBreaks s) = .ok v)
      (noMapping : ∀ m, v ≠ .mapping m) (something : v ≠ .null) :
      SpoilsSettings path place (.file content) (.file (.noMapping path))
  /-- The content is not UTF-8, and the text before what is not is at fault. -/
  | before {content : ByteArray} {f : Document.Fault} (bytes : String.fromUTF8? content = none)
      (fault : Document.faultOfPart (Encoding.partFault content).before = some f) :
      SpoilsSettings path place (.file content) (.ofFault path f)
  /-- The content is not UTF-8, and nothing is known to be wrong before that. -/
  | bytes {content : ByteArray} (bytes : String.fromUTF8? content = none)
      (sound : Document.faultOfPart (Encoding.partFault content).before = none) :
      SpoilsSettings path place (.file content) (.undecodable (Encoding.partFault content).fault)

/-- A value makes no layer if it is neither a mapping nor absent. -/
theorem layerOfValue_eq_error_iff {v : Value} {e : SettingsError} :
    layerOfValue path v = .error e ↔
      e = .noMapping path ∧ (∀ m, v ≠ .mapping m) ∧ v ≠ .null := by
  cases v with
  | mapping m => simp [layerOfValue]
  | scalar s => cases s <;> simp [layerOfValue, Value.null, eq_comm]
  | list items => simp [layerOfValue, Value.null, eq_comm]
  | set members => simp [layerOfValue, Value.null, eq_comm]
  | pair first second => simp [layerOfValue, Value.null, eq_comm]

/-- A text makes no layer if it is at fault, or holds something that is neither a mapping
nor absent. -/
theorem ofText_eq_error_iff {text : String} {failure : SettingsFailure} :
    Layer.ofText path text = .error failure ↔
      (∃ f, failure = .ofFault path f ∧ Document.readByPieces text = .error f) ∨
      failure = .file (.noMapping path) ∧ ∃ v, Document.readByPieces text = .ok v ∧
        (∀ m, v ≠ .mapping m) ∧ v ≠ .null := by
  rw [Layer.ofText]
  cases Document.readByPieces text with
  | error fault => simp [eq_comm]
  | ok v =>
    show Except.mapError SettingsFailure.file (_ <$> layerOfValue path v) = _ ↔ _
    rw [Fallible.mapError_eq_error]
    simp only [Fallible.map_eq_error, layerOfValue_eq_error_iff]
    constructor
    · rintro ⟨e, ⟨rfl, noMapping⟩, rfl⟩
      exact .inr ⟨rfl, v, rfl, noMapping⟩
    · rintro (⟨f, -, no⟩ | ⟨rfl, w, same, noMapping⟩)
      · cases no
      · obtain rfl := Except.ok.inj same
        exact ⟨_, ⟨rfl, noMapping⟩, rfl⟩

theorem textOfContent_of_text {s : String} (decoded : String.fromUTF8? content = some s) :
    textOfContent path content = .ok (Text.plainBreaks s) := by
  rw [textOfContent, Encoding.decodeByParts, decoded]

/-- Of bytes that are no text the fault of the text before them is reported, if there is one. -/
theorem textOfContent_of_bytes (bytes : String.fromUTF8? content = none) :
    textOfContent path content = .error
      (((Document.faultOfPart (Encoding.partFault content).before).map (.ofFault path)).getD
        (.undecodable (Encoding.partFault content).fault)) := by
  rw [textOfContent, Encoding.decodeByParts, bytes]
  dsimp only
  cases Document.faultOfPart (Encoding.partFault content).before <;> rfl

/-- What spoils settings keeps them from being taken. -/
theorem refused_of_spoilsSettings {place : String} {found : Glance} {failure : SettingsFailure}
    (h : SpoilsSettings path place found failure) :
    (textAt path place found >>= Layer.ofText path) = .error failure := by
  cases h with
  | missing => rfl
  | locked => rfl
  | text decoded fault =>
    rw [textAt, textOfContent_of_text decoded]
    exact ofText_eq_error_iff.2 (.inl ⟨_, rfl, fault⟩)
  | form decoded held noMapping something =>
    rw [textAt, textOfContent_of_text decoded]
    exact ofText_eq_error_iff.2 (.inr ⟨rfl, _, held, noMapping, something⟩)
  | before bytes fault =>
    rw [textAt, textOfContent_of_bytes bytes, fault]
    rfl
  | bytes bytes sound =>
    rw [textAt, textOfContent_of_bytes bytes, sound]
    rfl

/-- Settings that cannot be taken are spoilt by what is found. -/
theorem spoilsSettings_of_refused {place : String} {found : Glance} {failure : SettingsFailure}
    (h : (textAt path place found >>= Layer.ofText path) = .error failure) :
    SpoilsSettings path place found failure := by
  cases found with
  | nothing =>
    cases h
    exact .missing
  | locked size =>
    cases h
    exact .locked
  | file content =>
    rw [textAt] at h
    cases decoded : String.fromUTF8? content with
    | some s =>
      rw [textOfContent_of_text decoded] at h
      rcases ofText_eq_error_iff.1 h with ⟨f, rfl, fault⟩ | ⟨rfl, v, held, noMapping, something⟩
      · exact .text decoded fault
      · exact .form decoded held noMapping something
    | none =>
      rw [textOfContent_of_bytes decoded] at h
      cases earlier : Document.faultOfPart (Encoding.partFault content).before with
      | some f =>
        rw [earlier] at h
        cases h
        exact .before decoded earlier
      | none =>
        rw [earlier] at h
        cases h
        exact .bytes decoded earlier

/-- Settings are not taken from a file if its path leads nowhere, or for what is found
where it leads. -/
theorem loadFile_eq_error_iff {s : Settings} {d : Disk} {source : Source}
    {failure : SettingsFailure} :
    s.loadFile d path source = .error failure ↔
      failure = .noHome ∧ d.expand path = none ∨
      ∃ place, d.expand path = some place ∧ SpoilsSettings path place (d.look place) failure := by
  show s.fill source <$> Layer.ofFile d path = _ ↔ _
  rw [Fallible.map_eq_error, Layer.ofFile, settingsText]
  cases d.expand path with
  | none => simp [eq_comm]
  | some place =>
    constructor
    · intro refused
      exact .inr ⟨place, rfl, spoilsSettings_of_refused refused⟩
    · rintro (⟨-, no⟩ | ⟨other, same, spoils⟩)
      · cases no
      · obtain rfl := Option.some.inj same
        exact refused_of_spoilsSettings spoils

/-! ## §2 Rules -/

/-- How rules cannot be read from what is found at a path. -/
inductive SpoilsRules (path encoding : String) : Glance → RuleFileFailure → Prop
  | missing : SpoilsRules path encoding .nothing (.file (.notFound path))
  | large {found : Glance} {size : Nat} (measured : found.size? = some size)
      (large : maxRuleFileSize < size) : SpoilsRules path encoding found (.file (.tooLarge path))
  | locked {size : Nat} (small : size ≤ maxRuleFileSize) :
      SpoilsRules path encoding (.locked size)
        (.file (.unreadable path (deniedMessage (shownPath path))))
  | encoding {content : ByteArray} (small : content.size ≤ maxRuleFileSize)
      (unknown : Encoding.ofName? encoding = none) :
      SpoilsRules path encoding (.file content) (.noEncoding (Encoding.faultOf encoding))
  /-- The content is no text in the encoding. -/
  | bytes {content : ByteArray} {e : Encoding} {f : DecodingFault}
      (small : content.size ≤ maxRuleFileSize) (named : Encoding.ofName? encoding = some e)
      (undecoded : e.decode content = .error f) :
      SpoilsRules path encoding (.file content) (.file (.unreadable path f.message))
  /-- The text of the content is a structured one and at fault. -/
  | text {content : ByteArray} {e : Encoding} {s : String} {f : Document.Fault}
      (small : content.size ≤ maxRuleFileSize) (named : Encoding.ofName? encoding = some e)
      (decoded : e.decode content = .ok s) (structured : isStructured path = true)
      (fault : Document.read (Text.plainBreaks s) = .error f) :
      SpoilsRules path encoding (.file content) (.ofFault path f)
  /-- The text of the content is a structured one without rules. -/
  | noList {content : ByteArray} {e : Encoding} {s : String} {v : Value}
      (small : content.size ≤ maxRuleFileSize) (named : Encoding.ofName? encoding = some e)
      (decoded : e.decode content = .ok s) (structured : isStructured path = true)
      (held : Document.read (Text.plainBreaks s) = .ok v)
      (nothing : ¬ ∃ listed, HasRules v listed) :
      SpoilsRules path encoding (.file content) (.file (.noList path))
  /-- The text of the content is a structured one with something else for rules. -/
  | notTexts {content : ByteArray} {e : Encoding} {s : String} {v : Value}
      (small : content.size ≤ maxRuleFileSize) (named : Encoding.ofName? encoding = some e)
      (decoded : e.decode content = .ok s) (structured : isStructured path = true)
      (held : Document.read (Text.plainBreaks s) = .ok v)
      (other : ∃ listed, HasRules v listed ∧ IsOther listed) :
      SpoilsRules path encoding (.file content) (.file (.notTexts path))

variable {d : Disk} {encoding : String}

theorem readRuleLines_of_size {size : Nat} (measured : (d.look path).size? = some size) :
    readRuleLines d path encoding =
      if maxRuleFileSize < size then .error (.file (.tooLarge path))
      else rulesAt path encoding (d.look path) := by
  rw [readRuleLines, ruleFileAt, measured]
  by_cases large : maxRuleFileSize < size
  · rw [if_pos large]
    simp only [if_pos large]
  · rw [if_neg large]
    simp only [if_neg large]

/-- What spoils rules keeps them from being read. -/
theorem refused_of_spoilsRules {failure : RuleFileFailure}
    (h : SpoilsRules path encoding (d.look path) failure) :
    readRuleLines d path encoding = .error failure := by
  generalize same : d.look path = found at h
  -- All but the first two cases are about a file that is not too large.
  have small : ∀ {size : Nat}, found.size? = some size → size ≤ maxRuleFileSize →
      readRuleLines d path encoding = rulesAt path encoding found := by
    intro size measured small
    rw [readRuleLines_of_size (same ▸ measured), if_neg (Nat.not_lt.2 small), same]
  cases h with
  | missing => rw [readRuleLines, ruleFileAt, same, Glance.size?]
  | large measured large => rw [readRuleLines_of_size (same ▸ measured), if_pos large]
  | locked fits =>
    rw [small rfl fits]
    rfl
  | encoding fits unknown => rw [small rfl fits, rulesAt, rulesOfContent, unknown]
  | bytes fits named undecoded =>
    rw [small rfl fits, rulesAt, rulesOfContent, named]
    dsimp only
    rw [undecoded]
  | text fits named decoded structured fault =>
    rw [small rfl fits, rulesAt, rulesOfContent_of_text named decoded, rulesOfText,
      if_pos structured, fault]
  | noList fits named decoded structured held nothing =>
    rw [small rfl fits, rulesAt, rulesOfContent_of_text named decoded,
      rulesOfText_of_value structured held, listedRules_eq_error_iff.2 (.inl ⟨rfl, nothing⟩)]
    rfl
  | notTexts fits named decoded structured held other =>
    rw [small rfl fits, rulesAt, rulesOfContent_of_text named decoded,
      rulesOfText_of_value structured held, listedRules_eq_error_iff.2 (.inr ⟨rfl, other⟩)]
    rfl

theorem spoilsRules_of_content {failure : RuleFileFailure} (small : content.size ≤ maxRuleFileSize)
    (h : rulesOfContent path encoding content = .error failure) :
    SpoilsRules path encoding (.file content) failure := by
  cases named : Encoding.ofName? encoding with
  | none =>
    rw [rulesOfContent, named] at h
    cases h
    exact .encoding small named
  | some e =>
    cases decoded : e.decode content with
    | error f =>
      rw [rulesOfContent, named] at h
      dsimp only at h
      rw [decoded] at h
      cases h
      exact .bytes small named decoded
    | ok s =>
      rw [rulesOfContent_of_text named decoded] at h
      by_cases structured : isStructured path = true
      · cases held : Document.read (Text.plainBreaks s) with
        | error f =>
          rw [rulesOfText, if_pos structured, held] at h
          cases h
          exact .text small named decoded structured held
        | ok v =>
          rw [rulesOfText_of_value structured held] at h
          obtain ⟨e, refused, rfl⟩ := Fallible.mapError_eq_error.1 h
          rcases listedRules_eq_error_iff.1 refused with ⟨rfl, nothing⟩ | ⟨rfl, other⟩
          · exact .noList small named decoded structured held nothing
          · exact .notTexts small named decoded structured held other
      · rw [rulesOfText, if_neg structured] at h
        cases h

/-- Rules that cannot be read are spoilt by what is found. -/
theorem spoilsRules_of_refused {failure : RuleFileFailure}
    (h : readRuleLines d path encoding = .error failure) :
    SpoilsRules path encoding (d.look path) failure := by
  cases measured : (d.look path).size? with
  | none =>
    rw [readRuleLines, ruleFileAt, measured] at h
    cases h
    generalize d.look path = found at measured
    cases found with
    | nothing => exact .missing
    | locked size => cases measured
    | file content => cases measured
  | some size =>
    rw [readRuleLines_of_size measured] at h
    split at h
    · rename_i large
      cases h
      exact .large measured large
    · rename_i small
      have small := Nat.not_lt.1 small
      generalize d.look path = found at h measured
      cases found with
      | nothing => cases measured
      | locked size =>
        obtain rfl := Option.some.inj measured
        cases h
        exact .locked small
      | file content =>
        obtain rfl := Option.some.inj measured
        exact spoilsRules_of_content small h

theorem readRuleLines_eq_error_iff {failure : RuleFileFailure} :
    readRuleLines d path encoding = .error failure ↔
      SpoilsRules path encoding (d.look path) failure :=
  ⟨spoilsRules_of_refused, refused_of_spoilsRules⟩

/-! ## §3 Defects -/

/-- A fault stems from the tokens of a text, or from those of its beginning as far as it
comes in whole pieces. -/
def StemsFromText (text : String) (f : Document.Fault) : Prop :=
  Document.StemsFrom (Document.tokensInTurn text.toList) f ∨
    Document.StemsFrom (Document.tokensBefore (text.toList.takeWhile Document.isAllowed)) f

/-- The text in which content of a file of settings has a fault: all of it, or what comes
before bytes that are no text. -/
def textToBlame (content : ByteArray) : String :=
  match String.fromUTF8? content with
  | some s => Text.plainBreaks s
  | none => String.ofList (Encoding.partFault content).before

/-- What is made of an optional value in a way of its own tells the value. -/
theorem eq_some_of_elim {α β : Type} {o : Option α} {x : α} {b : β} {g : α → β}
    (injective : ∀ {a c}, g a = g c → a = c) (apart : ∀ a, b ≠ g a) (h : o.elim b g = g x) :
    o = some x := by
  cases o with
  | none => exact absurd h (apart x)
  | some a => exact congrArg some (injective h)

theorem defect?_of_ofFault {f : Document.Fault} {x : Document.Defect}
    (h : SettingsFailure.ofFault path f = .defect x) : f.defect? = some x :=
  eq_some_of_elim SettingsFailure.defect.inj (by rintro _ ⟨⟩) h

theorem defect?_of_ruleOfFault {f : Document.Fault} {x : Document.Defect}
    (h : RuleFileFailure.ofFault path f = .defect x) : f.defect? = some x :=
  eq_some_of_elim RuleFileFailure.defect.inj (by rintro _ ⟨⟩) h

/-- Settings that are spoilt by a defect have it in their text. -/
theorem stems_of_spoilsSettings {place : String} {found : Glance} {x : Document.Defect}
    (h : SpoilsSettings path place found (.defect x)) :
    ∃ content f, found = .file content ∧ f.defect? = some x ∧
      StemsFromText (textToBlame content) f := by
  generalize same : SettingsFailure.defect x = failure at h
  cases h with
  | missing => cases same
  | locked => cases same
  | text decoded fault =>
    refine ⟨_, _, rfl, defect?_of_ofFault same.symm, ?_⟩
    rw [textToBlame, decoded]
    exact Document.stemsFrom_of_readByPieces fault
  | form decoded held noMapping something => cases same
  | before bytes fault =>
    refine ⟨_, _, rfl, defect?_of_ofFault same.symm, .inr ?_⟩
    rw [textToBlame, bytes]
    dsimp only
    rw [String.toList_ofList]
    exact Document.stemsFrom_of_faultOfPart fault
  | bytes bytes sound => cases same

/-- Rules that are spoilt by a defect have it in their text, which is a structured one. -/
theorem stems_of_spoilsRules {found : Glance} {x : Document.Defect}
    (h : SpoilsRules path encoding found (.defect x)) :
    isStructured path = true ∧ ∃ content e s f, found = .file content ∧
      Encoding.ofName? encoding = some e ∧ e.decode content = .ok s ∧ f.defect? = some x ∧
        Document.StemsFrom (Document.tokensInTurn (Text.plainBreaks s).toList) f := by
  generalize same : RuleFileFailure.defect x = failure at h
  cases h with
  | text small named decoded structured fault =>
    exact ⟨structured, _, _, _, _, rfl, named, decoded, defect?_of_ruleOfFault same.symm,
      Document.stemsFrom_of_read fault⟩
  | _ => cases same

/-! ## §4 Files -/

/-- A file that lists a day that no month has. -/
def dayDisk : Disk := Disk.empty.write "day.yaml" (some "rules: [2001-02-30]\n".toUTF8)

/-- The kinds of failure of the two readers for one file. -/
def kindsOfFailure (content : ByteArray) : Except String Unit × Except String Unit :=
  let d := Disk.empty.write "f.yaml" (some content)
  (((Settings.defaults.loadFile d "f.yaml" .file).map fun _ => ()).mapError SettingsFailure.name,
    ((readRuleLines d "f.yaml" "utf-8").map fun _ => ()).mapError RuleFileFailure.name)

/-- Texts that keep to the format and are no value, with the kind of failure. -/
def misfits : List (String × String) := [
  ("a: 2001-02-30\n", "ValueError"), ("a: \"\\U80000000\"\n", "OverflowError"),
  ("a: !!bool maybe\n", "KeyError"), ("a: !!int ''\n", "IndexError"),
  ("a: !!timestamp x\n", "AttributeError"), ("a: !!timestamp \x7b=: x\x7d\n", "TypeError")]

end TreeSift
