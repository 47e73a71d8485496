/-
  TreeSift.Document.Token — the marks that a structured text is made of.

  Tokens are scalars, the marks between them, and the places where an indented
  collection begins or ends. A key that is marked by nothing but the colon after
  it has a token of its own before it. Where a text cannot be cut any further,
  the last token says why.

    §1 Faults  `ScalarFault`, `Fault`, `Defect`
    §2 Tokens  `Token`
-/
import TreeSift.Text.Quoted

namespace TreeSift.Document

/-! ## §1 Faults -/

/-- Why a scalar has no value. -/
inductive ScalarFault where
  /-- A number, a date or a character does not exist. -/
  | noValue (message : String)
  /-- A number is too large for what is made of it. -/
  | tooLarge (message : String)
  /-- A word that is said to be a truth value is none. -/
  | noTruth (word : String)
  /-- A number has no characters. -/
  | nothing
  /-- A text that is said to be a date has not the form of one. -/
  | noDate
  /-- A mapping is said to be a date. -/
  | mappingForDate
  deriving DecidableEq, Repr

namespace ScalarFault

/-- The name of the kind of a fault. -/
def name : ScalarFault → String
  | noValue _ => "ValueError"
  | tooLarge _ => "OverflowError"
  | noTruth _ => "KeyError"
  | nothing => "IndexError"
  | noDate => "AttributeError"
  | mappingForDate => "TypeError"

/-- A fault in words. -/
def message : ScalarFault → String
  | noValue message => message
  | tooLarge message => message
  | noTruth word => Text.quoted word
  | nothing => "string index out of range"
  | noDate => "'NoneType' object has no attribute 'groupdict'"
  | mappingForDate => "expected string or bytes-like object, got 'list'"

end ScalarFault

/-- Why a text is not read. -/
inductive Fault where
  /-- The text breaks the rules of the format. -/
  | malformed
  /-- The text ends where more is to come. -/
  | ended
  /-- A scalar has no value. -/
  | badScalar (f : ScalarFault)
  /-- Collections lie too deep within one another. -/
  | tooDeep
  /-- What the text holds is not described here: a collection that lies within
  itself, or a text with half a pair of surrogates. -/
  | beyond
  deriving DecidableEq, Repr

/-- What a fault means in a text to which nothing is added. -/
def Fault.whole : Fault → Fault
  | ended => malformed
  | f => f

/-- What is wrong with a text that does not break the rules of the format. One that is not
described need not be wrong. -/
inductive Defect where
  | badScalar (f : ScalarFault)
  | tooDeep
  | beyond
  deriving DecidableEq, Repr

namespace Defect

/-- The name of the kind of a defect. -/
def name : Defect → String
  | badScalar f => f.name
  | tooDeep => "RecursionError"
  | beyond => "NotImplementedError"

/-- A defect in words. -/
def message : Defect → String
  | badScalar f => f.message
  | tooDeep => "maximum recursion depth exceeded"
  | beyond => "text not described"

end Defect

/-- The defect that a fault is, unless it breaks the rules of the format. -/
def Fault.defect? : Fault → Option Defect
  | malformed => none
  | ended => none
  | badScalar f => some (.badScalar f)
  | tooDeep => some .tooDeep
  | beyond => some .beyond

/-! ## §2 Tokens -/

/-- What a directive line says. -/
inductive Directive where
  | version (major : Nat)
  | tag (handle replacement : String)
  | unknown
  deriving DecidableEq, Repr

/-- The marks that a structured text is made of. -/
inductive Token where
  | directive (d : Directive)
  | documentStart
  | documentEnd
  | blockSequenceStart
  | blockMappingStart
  | blockEnd
  | flowSequenceStart
  | flowSequenceEnd
  | flowMappingStart
  | flowMappingEnd
  | blockEntry
  | flowEntry
  | key
  | value
  | alias (name : String)
  | anchor (name : String)
  | tag (handle : Option String) (suffix : String)
  /-- A scalar; a plain one is written without quotes. -/
  | scalar (text : String) (plain : Bool)
  /-- There is no token here. -/
  | broken (f : Fault)
  deriving DecidableEq, Repr

end TreeSift.Document
