/-
  TreeSift.Regex.CharTest — tests on one character.

  A test is an atom of a pattern together with the rule for letter case that
  holds where it stands. Under a rule that ignores case a character is compared
  by its likeness. A set does so for its members within the first 65536 code
  points; beyond them, a single member has to equal the lower-case form of the
  character, and a range has to hold that form or the upper-case form of it.

    §1 Rules for case  `CaseRule`
    §2 Classes         `Category.holds`
    §3 Tests           `CharTest.admits`
-/
import TreeSift.Regex.Syntax
import TreeSift.Text.Blank
import TreeSift.Text.Letter
import TreeSift.Text.Likeness
import TreeSift.Text.Numeral
import TreeSift.Text.Upper

namespace TreeSift.Regex

/-! ## §1 Rules for case -/

/-- What letter case means to a comparison. -/
inductive CaseRule where
  /-- Case counts. -/
  | exact
  /-- The case of ASCII letters does not count. -/
  | ascii
  /-- Case does not count. -/
  | full
  deriving DecidableEq, Repr

namespace CaseRule

/-- The lower-case form of a code point within ASCII. -/
def asciiLower (n : Nat) : Nat := if 0x41 ≤ n && n ≤ 0x5A then n + 0x20 else n

/-- The code point that comparisons go by. -/
def lower : CaseRule → Nat → Nat
  | exact, n => n
  | ascii, n => asciiLower n
  | full, n => Text.lowerCode n

/-- Whether two code points are the same. -/
def same : CaseRule → Nat → Nat → Bool
  | exact, m, n => m == n
  | ascii, m, n => asciiLower m == asciiLower n
  | full, m, n => Text.likenessCode m == Text.likenessCode n

/-- All code points that are the same as a given one. -/
def sames : CaseRule → Nat → List Nat
  | exact, n => [n]
  | ascii, n =>
    let low := asciiLower n
    if 0x61 ≤ low && low ≤ 0x7A then [low, low - 0x20] else [low]
  | full, n => Text.alikes n

end CaseRule

/-! ## §2 Classes -/

namespace Category

/-- Whether a character belongs to a class, within ASCII or in any script. -/
def holds (asciiOnly : Bool) (k : Category) (c : Char) : Bool :=
  if asciiOnly then
    match k with
    | digit => c.isDigit
    | space => c == ' ' || (0x09 ≤ c.toNat && c.toNat ≤ 0x0D)
    | word => c.isAlphanum || c == '_'
  else
    match k with
    | digit => Text.isDigit c
    | space => Text.isBlank c
    | word => c == '_' || Text.isLetter c || Text.isNumeral c

end Category

/-! ## §3 Tests -/

/-- The last code point of the first plane. -/
def planeEnd : Nat := 0xFFFF

/-- The code point of the first upper-case letter of a character. -/
def upperCode (n : Nat) : Nat :=
  match Text.upperChar (Char.ofNat n) with
  | [] => n
  | c :: _ => c.toNat

namespace SetItem

/-- Whether a part of a set holds a character. -/
def holds (rule : CaseRule) (asciiOnly : Bool) (c : Char) : SetItem → Bool
  | code n => if rule = .exact || n ≤ planeEnd then rule.same n c.toNat else n == rule.lower c.toNat
  | range first last =>
    match rule with
    | .exact => first ≤ c.toNat && c.toNat ≤ last
    | _ =>
      let low := rule.lower c.toNat
      let up := upperCode low
      (rule.sames c.toNat).any (fun n => first ≤ n && n ≤ min last planeEnd)
        || (planeEnd < last && ((first ≤ low && low ≤ last) || (first ≤ up && up ≤ last)))
  | category k negated => k.holds asciiOnly (Char.ofNat (rule.lower c.toNat)) != negated

end SetItem

/-- A test on one character. -/
inductive CharTest where
  /-- Every character but the line feed. -/
  | anyInLine
  | any
  | code (rule : CaseRule) (negated : Bool) (n : Nat)
  | set (rule : CaseRule) (asciiOnly negated : Bool) (items : List SetItem)
  deriving DecidableEq, Repr

namespace CharTest

/-- Whether a character passes a test. -/
def admits (c : Char) : CharTest → Bool
  | anyInLine => c != '\n'
  | any => true
  | code rule negated n => rule.same n c.toNat != negated
  | set rule asciiOnly negated items => items.any (·.holds rule asciiOnly c) != negated

end CharTest

end TreeSift.Regex
