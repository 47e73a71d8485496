/-
  TreeSift.Regex.Fault — why a regular expression is refused.

  A fault of a pattern has a cause and, nearly always, a position, counted in
  characters. When the pattern has a line feed, line and column follow it. Apart
  from faults, a pattern is refused when it asks for too many repetitions or for
  two alphabets at once, and when it names a character that may exist and is not
  listed.

    §1 Causes
    §2 Refusals  `Refusal.message`
-/
import TreeSift.Decimal.Based
import TreeSift.Regex.Syntax
import TreeSift.Text.Quoted

namespace TreeSift.Regex

/-! ## §1 Causes -/

/-- What is wrong with a pattern. -/
inductive Fault where
  | danglingBackslash
  | incompleteEscape (text : String)
  | unknownEscape (text : String)
  | largeOctal (text : String)
  /-- Something that has to stand there does not. -/
  | missing (what : String)
  | unterminatedName (closer : Char)
  | unterminatedComment
  | unterminatedGroup
  | unterminatedSet
  | undefinedCharacter (name : String)
  | openGroup
  | groupOfSameLook
  | unknownGroup (index : Nat)
  | unknownName (name : String)
  | badName (name : String)
  | zeroGroup
  | repeatedName (name : String) (index earlier : Nat)
  | badRange (first last : String)
  | emptyCountRange
  | nothingToRepeat
  | repeatOfRepeat
  | endOfPattern
  | unknownExtension (text : String)
  | thirdBranch
  | lateFlags
  | unknownFlag
  | localeFlag
  | twoAlphabets
  | alphabetOff
  | globalFlagOn
  | globalFlagOff
  | flagOnAndOff
  | unopenedGroup
  | variableLookBehind
  | longLookBehind
  /-- A repeat in a pattern that is declared a template. -/
  | repeatInTemplate (greed : Greed)
  deriving DecidableEq, Repr

namespace Greed

/-- The name of a repeat in messages. -/
def label : Greed → String
  | greedy => "MAX_REPEAT"
  | lazy => "MIN_REPEAT"
  | possessive => "POSSESSIVE_REPEAT"

end Greed

namespace Fault

/-- A fault in words. -/
def message : Fault → String
  | danglingBackslash => "bad escape (end of pattern)"
  | incompleteEscape text => s!"incomplete escape {text}"
  | unknownEscape text => s!"bad escape {text}"
  | largeOctal text => s!"octal escape value {text} outside of range 0-0o377"
  | missing what => s!"missing {what}"
  | unterminatedName closer => s!"missing {closer}, unterminated name"
  | unterminatedComment => "missing ), unterminated comment"
  | unterminatedGroup => "missing ), unterminated subpattern"
  | unterminatedSet => "unterminated character set"
  | undefinedCharacter name => s!"undefined character name {Text.quoted name}"
  | openGroup => "cannot refer to an open group"
  | groupOfSameLook => "cannot refer to group defined in the same lookbehind subpattern"
  | unknownGroup index => s!"invalid group reference {index}"
  | unknownName name => s!"unknown group name {Text.quoted name}"
  | badName name => s!"bad character in group name {Text.quoted name}"
  | zeroGroup => "bad group number"
  | repeatedName name index earlier =>
    s!"redefinition of group name {Text.quoted name} as group {index}; was group {earlier}"
  | badRange first last => s!"bad character range {first}-{last}"
  | emptyCountRange => "min repeat greater than max repeat"
  | nothingToRepeat => "nothing to repeat"
  | repeatOfRepeat => "multiple repeat"
  | endOfPattern => "unexpected end of pattern"
  | unknownExtension text => s!"unknown extension {text}"
  | thirdBranch => "conditional backref with more than two branches"
  | lateFlags => "global flags not at the start of the expression"
  | unknownFlag => "unknown flag"
  | localeFlag => "bad inline flags: cannot use 'L' flag with a str pattern"
  | twoAlphabets => "bad inline flags: flags 'a', 'u' and 'L' are incompatible"
  | alphabetOff => "bad inline flags: cannot turn off flags 'a', 'u' and 'L'"
  | globalFlagOn => "bad inline flags: cannot turn on global flag"
  | globalFlagOff => "bad inline flags: cannot turn off global flag"
  | flagOnAndOff => "bad inline flags: flag turned on and off"
  | unopenedGroup => "unbalanced parenthesis"
  | variableLookBehind => "look-behind requires fixed-width pattern"
  | longLookBehind => "looks too much behind"
  | repeatInTemplate greed => s!"internal: unsupported template operator {greed.label}"

end Fault

/-! ## §2 Refusals -/

/-- Why a pattern is refused. -/
inductive Refusal where
  /-- A fault, with its position if it has one. -/
  | fault (cause : Fault) (position : Option Nat)
  /-- A number of repetitions beyond the limit. -/
  | largeCount
  /-- A number of repetitions with more digits than are read. -/
  | longCount (digits : Nat)
  /-- Flags for the whole pattern that choose two alphabets. -/
  | clashingAlphabets
  /-- A name of a character that may exist and is not listed. -/
  | unlistedName (name : String)
  deriving DecidableEq, Repr

/-- The line and the column of a position, both counted from one. -/
def lineAndColumn (pattern : List Char) (position : Nat) : Nat × Nat :=
  let before := pattern.take position
  (before.count '\n' + 1, (before.reverse.takeWhile (· ≠ '\n')).length + 1)

namespace Refusal

/-- A refusal in words; positions are those of the given pattern. -/
def message (pattern : String) : Refusal → String
  | fault cause none => cause.message
  | fault cause (some position) =>
    let text := s!"{cause.message} at position {position}"
    if pattern.toList.contains '\n' then
      let (line, column) := lineAndColumn pattern.toList position
      s!"{text} (line {line}, column {column})"
    else text
  | largeCount => "the repetition number is too large"
  | longCount digits => Decimal.longMessage digits
  | clashingAlphabets => "ASCII and UNICODE flags are incompatible"
  | unlistedName name => s!"character name {Text.quoted name} not listed"

end Refusal

end TreeSift.Regex
