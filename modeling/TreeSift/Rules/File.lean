/-
  TreeSift.Rules.File — lines of rules out of files.

  A file of rules is either a plain text, one rule a line, or, when its suffix
  says so, a structured text: a mapping with a list of texts. Files beyond ten
  mebibytes are refused unread.

    §1 Errors   `RuleFileError`, `RuleFileFailure`
    §2 Lists    `listedRules`
    §3 Files    `ruleFileAt`, `readRuleLines`
-/
import TreeSift.Disk
import TreeSift.Document.Basic
import TreeSift.Encoding
import TreeSift.Search.Error
import TreeSift.Text.Line

namespace TreeSift

/-! ## §1 Errors -/

/-- What is wrong with a file of rules; each names the path concerned. -/
inductive RuleFileError where
  | notFound (path : String)
  | tooLarge (path : String)
  | unreadable (path : String) (reason : String)
  | malformed (path : String)
  | noList (path : String)
  | notTexts (path : String)
  deriving DecidableEq, Repr

/-- The greatest size of a file of rules, in bytes. -/
def maxRuleFileSize : Nat := 10485760

namespace RuleFileError

/-- An error in words; what a reader says of a text that breaks the rules of the format, on
the next line, is left out. -/
def message : RuleFileError → String
  | notFound path => s!"Rule file not found: {path}"
  | tooLarge path => s!"Rule file exceeds maximum size ({maxRuleFileSize}): {path}"
  | unreadable path reason => s!"Failed to read rule file: {path}\n{reason}"
  | malformed path => s!"Failed to parse rule file: {path}"
  | noList path => "Rule file must contain a 'rules' list: " ++ path
  | notTexts path => "'rules' must be a list of strings: " ++ path

/-- The code of an error. -/
def code : RuleFileError → ErrorCode
  | notFound _ => .notFound
  | _ => .invalidInput

end RuleFileError

/-- Why no rules could be read. -/
inductive RuleFileFailure where
  | file (e : RuleFileError)
  /-- The name of the encoding names none. -/
  | noEncoding (f : NamingFault)
  /-- The text is no value although it keeps to the format. -/
  | defect (f : Document.Defect)
  deriving DecidableEq, Repr

namespace RuleFileFailure

/-- The name of the kind of a failure. -/
def name : RuleFileFailure → String
  | file _ => "RuleFileError"
  | noEncoding f => f.name
  | defect f => f.name

/-- A failure in words. -/
def message : RuleFileFailure → String
  | file e => e.message
  | noEncoding f => f.message
  | defect f => f.message

end RuleFileFailure

/-! ## §2 Lists -/

/-- The key under which a structured text lists its rules. -/
def rulesKey : Scalar := .text "rules"

/-- The rules that a value lists. Whatever counts as nothing is an empty list. -/
def listedRules (path : String) (v : Value) : Except RuleFileError (List String) :=
  match v with
  | .mapping entries =>
    match Mapping.get? rulesKey entries with
    | none => .error (.noList path)
    | some listed =>
      if !listed.isTruthy then .ok []
      else
        match listed with
        | .list items =>
          match items.mapM Value.toText? with
          | some texts => .ok texts
          | none => .error (.notTexts path)
        | _ => .error (.notTexts path)
  | _ => .error (.noList path)

/-! ## §3 Files -/

/-- Whether the rules of a file are listed in a structured text. -/
def isStructured (path : String) : Bool := suffix path = ".yaml" || suffix path = ".yml"

/-- The failure that a fault of a text is which was read from a path. -/
def RuleFileFailure.ofFault (path : String) (f : Document.Fault) : RuleFileFailure :=
  f.defect?.elim (.file (.malformed path)) .defect

/-- The rules of a text that was read from a path. -/
def rulesOfText (path text : String) : Except RuleFileFailure (List String) :=
  if isStructured path then
    match Document.read text with
    | .ok v => (listedRules path v).mapError .file
    | .error f => .error (.ofFault path f)
  else .ok (Text.lines text)

/-- What is at the path of a file of rules, which must be there and not too large. -/
def ruleFileAt (d : Disk) (path : String) : Except RuleFileError Glance :=
  match (d.look path).size? with
  | none => .error (.notFound path)
  | some size => if maxRuleFileSize < size then .error (.tooLarge path) else .ok (d.look path)

/-- The rules in the content of a file. -/
def rulesOfContent (path encoding : String) (content : ByteArray) :
    Except RuleFileFailure (List String) :=
  match Encoding.ofName? encoding with
  | none => .error (.noEncoding (Encoding.faultOf encoding))
  | some e =>
    match e.decode content with
    | .error f => .error (.file (.unreadable path f.message))
    | .ok text => rulesOfText path (Text.plainBreaks text)

/-- The rules of a file of which it is known what is at its path. -/
def rulesAt (path encoding : String) : Glance → Except RuleFileFailure (List String)
  | .file content => rulesOfContent path encoding content
  | _ => .error (.file (.unreadable path (deniedMessage (shownPath path))))

/-- The rules of a file. -/
def readRuleLines (d : Disk) (path encoding : String) : Except RuleFileFailure (List String) :=
  match ruleFileAt d path with
  | .error e => .error (.file e)
  | .ok there => rulesAt path encoding there

theorem ruleFileAt_of_file {d : Disk} {path : String} {content : ByteArray}
    (stored : d.file? path = some content) :
    ruleFileAt d path =
      if maxRuleFileSize < content.size then .error (.tooLarge path) else .ok (.file content) := by
  rw [ruleFileAt, Disk.file?_eq_some_iff.1 stored]
  rfl

/-- A file that may be opened is read for its content, unless it is too large. -/
theorem readRuleLines_of_file {d : Disk} {path : String} {content : ByteArray}
    (stored : d.file? path = some content) (encoding : String) :
    readRuleLines d path encoding =
      if maxRuleFileSize < content.size then .error (.file (.tooLarge path))
      else rulesOfContent path encoding content := by
  rw [readRuleLines, ruleFileAt_of_file stored]
  by_cases large : maxRuleFileSize < content.size
  · rw [if_pos large, if_pos large]
  · rw [if_neg large, if_neg large]
    rfl

end TreeSift
