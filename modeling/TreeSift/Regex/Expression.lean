/-
  TreeSift.Regex.Expression — regular expressions ready to match.

  In an expression every part knows the flags that hold for it: flags have been
  carried to the characters, sets, anchors and references below them, and a look
  behind knows how many characters it goes back. Looks behind of variable width
  are refused on the way.

    §1 Places       `Place`
    §2 Expressions  `Expression`, `Expression.matcher`
    §3 Flags        `Mode`
    §4 Resolving    `Expression.ofNode`
-/
import TreeSift.Regex.CharTest
import TreeSift.Regex.Matcher
import TreeSift.Regex.Reader

namespace TreeSift.Regex

/-! ## §1 Places -/

/-- Conditions on a place between characters. -/
inductive Place where
  | textStart
  | lineStart
  | textEnd
  /-- The end of the text, or before a line feed at its end. -/
  | finish
  | lineEnd
  | wordBoundary (asciiOnly : Bool)
  | inner (asciiOnly : Bool)
  deriving DecidableEq, Repr

namespace Place

/-- Whether there is a word character at a position. -/
def isWordAt (asciiOnly : Bool) (text : Array Char) (i : Nat) : Bool :=
  match text[i]? with
  | none => false
  | some c => Category.word.holds asciiOnly c

/-- Whether there is a word character before a position. -/
def isWordBefore (asciiOnly : Bool) (text : Array Char) : Nat → Bool
  | 0 => false
  | i + 1 => isWordAt asciiOnly text i

/-- Whether a line begins at a position. -/
def isLineStart (text : Array Char) : Nat → Bool
  | 0 => true
  | i + 1 => text[i]? == some '\n'

/-- Whether a condition holds at a position. In an empty text there is neither a
word boundary nor a place that is none. -/
def holds (text : Array Char) (i : Nat) : Place → Bool
  | textStart => i == 0
  | lineStart => isLineStart text i
  | textEnd => i == text.size
  | finish => i == text.size || (i + 1 == text.size && text[i]? == some '\n')
  | lineEnd => i == text.size || text[i]? == some '\n'
  | wordBoundary asciiOnly =>
    text.size != 0 && isWordAt asciiOnly text i != isWordBefore asciiOnly text i
  | inner asciiOnly =>
    text.size != 0 && isWordAt asciiOnly text i == isWordBefore asciiOnly text i

end Place

/-! ## §2 Expressions -/

/-- A regular expression whose parts know the flags that hold for them. -/
inductive Expression where
  | empty
  | char (t : CharTest)
  | place (p : Place)
  | reference (rule : CaseRule) (group : Nat)
  | seq (first rest : Expression)
  | alt (first rest : Expression)
  | capture (group : Nat) (body : Expression)
  | atomic (body : Expression)
  | repeated (greed : Greed) (least : Nat) (most : Option Nat) (body : Expression)
  | ahead (negated : Bool) (body : Expression)
  | behind (negated : Bool) (width : Nat) (body : Expression)
  | condition (group : Nat) (yes no : Expression)
  deriving DecidableEq, Repr

/-- Whether the characters at a position repeat the next `count` characters from
another one on. -/
def repeats (rule : CaseRule) (text : Array Char) (first here : Nat) : Nat → Bool
  | 0 => true
  | count + 1 =>
    match text[first]?, text[here]? with
    | some c, some d =>
      rule.lower c.toNat == rule.lower d.toNat && repeats rule text (first + 1) (here + 1) count
    | _, _ => false

/-- Matches again what a group has matched. -/
def referenceMatcher (rule : CaseRule) (text : Array Char) (group : Nat) : Matcher := fun s k =>
  match s.extent? group with
  | none => none
  | some (first, last) =>
    if repeats rule text first s.position (last - first) then
      k (s.goTo (s.position + (last - first)))
    else none

namespace Expression

/-- The matcher of an expression in a text. -/
def matcher (text : Array Char) : Expression → Matcher
  | empty => .succeed
  | char t => .step fun s =>
    match text[s.position]? with
    | none => false
    | some c => t.admits c
  | place p => .guard fun s => p.holds text s.position
  | reference rule group => referenceMatcher rule text group
  | seq a b => .seq (a.matcher text) (b.matcher text)
  | alt a b => .alt (a.matcher text) (b.matcher text)
  | capture group body => .capture group (body.matcher text)
  | atomic body => .atomic (body.matcher text)
  | repeated .greedy least most body => .greedy text.size least most (body.matcher text)
  | repeated .lazy least most body => .lazy text.size least most (body.matcher text)
  | repeated .possessive least most body => .possessive text.size least most (body.matcher text)
  | ahead false body => .ahead (body.matcher text)
  | ahead true body => .notAhead (body.matcher text)
  | behind false width body => .behind width (body.matcher text)
  | behind true width body => .notBehind width (body.matcher text)
  | condition group yes no => .condition group (yes.matcher text) (no.matcher text)

end Expression

/-! ## §3 Flags -/

/-- The flags that hold for a part of a pattern. -/
structure Mode where
  ignoreCase : Bool
  multiLine : Bool
  dotAll : Bool
  asciiOnly : Bool
  deriving DecidableEq, Repr

namespace Mode

/-- Flags switched on and off. A flag that chooses the alphabet takes the place of
the one before. -/
def change (m : Mode) (added removed : Flags) : Mode where
  ignoreCase := (m.ignoreCase || added.contains .ignoreCase) && !removed.contains .ignoreCase
  multiLine := (m.multiLine || added.contains .multiLine) && !removed.contains .multiLine
  dotAll := (m.dotAll || added.contains .dotAll) && !removed.contains .dotAll
  asciiOnly := (m.asciiOnly && !added.contains .unicode) || added.contains .ascii

/-- The rule for letter case. -/
def caseRule (m : Mode) : CaseRule :=
  if m.ignoreCase then (if m.asciiOnly then .ascii else .full) else .exact

/-- What an anchor asks for. -/
def place (m : Mode) : Anchor → Place
  | .start => if m.multiLine then .lineStart else .textStart
  | .finish => if m.multiLine then .lineEnd else .finish
  | .textStart => .textStart
  | .textEnd => .textEnd
  | .wordBoundary => .wordBoundary m.asciiOnly
  | .inner => .inner m.asciiOnly

/-- What an atom matches. -/
def atom (m : Mode) : Atom → Expression
  | .code n => .char (.code m.caseRule false n)
  | .notCode n => .char (.code m.caseRule true n)
  | .any => .char (if m.dotAll then .any else .anyInLine)
  | .set negated items => .char (.set m.caseRule m.asciiOnly negated items)
  | .anchor a => .place (m.place a)
  | .reference group => .reference m.caseRule group

end Mode

/-! ## §4 Resolving -/

/-- The greatest number of characters that a look behind goes back. -/
def lookBehindLimit : Nat := 4294967295

namespace Expression

/-- The expression of a node under given flags. `template` forbids repeats, and
`groups` are the widths of the groups. -/
def ofNode (template : Bool) (groups : Nat → Nat × Nat) :
    Mode → Node → Except Refusal Expression
  | _, .empty => .ok .empty
  | m, .atom a => .ok (m.atom a)
  | m, .seq a b => return .seq (← ofNode template groups m a) (← ofNode template groups m b)
  | m, .alt a b => return .alt (← ofNode template groups m a) (← ofNode template groups m b)
  | m, .group index added removed body => do
    let e ← ofNode template groups (m.change added removed) body
    return match index with
    | some g => .capture g e
    | none => e
  | m, .atomic body => return .atomic (← ofNode template groups m body)
  | m, .repeated greed least most body => do
    if template then throw (.fault (.repeatInTemplate greed) none)
    return .repeated greed least most (← ofNode template groups m body)
  | m, .look false negated body => return .ahead negated (← ofNode template groups m body)
  | m, .look true negated body => do
    let (low, high) := body.width groups
    if lookBehindLimit < low then throw (.fault .longLookBehind none)
    if low ≠ high then throw (.fault .variableLookBehind none)
    return .behind negated low (← ofNode template groups m body)
  | m, .condition group yes no =>
    return .condition group (← ofNode template groups m yes) (← ofNode template groups m no)

end Expression

end TreeSift.Regex
