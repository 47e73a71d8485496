/-
  TreeSift.Document.Place — places in a text, with line and column.

  A place is what is left of a text, how many characters precede it, and its
  line and column, counted from nothing. A byte order mark takes no column. A
  text of which more is to come ends with a character that no text holds.

    §1 Characters
    §2 Moving      `next`, `skip`, `span`, `lineBreak?`
    §3 Refusals    `isSpent`, `refuse`
-/
import TreeSift.Document.Token

namespace TreeSift.Document

/-! ## §1 Characters -/

/-- Whether a character ends a line. -/
def isBreak (c : Char) : Bool :=
  c == '\n' || c == '\r' || c == '\u0085' || c == '\u2028' || c == '\u2029'

/-- Whether a character is a blank or ends a line. -/
def isGap (c : Char) : Bool := c == ' ' || c == '\t' || isBreak c

/-- Whether a character may stand in a text at all. -/
def isAllowed (c : Char) : Bool :=
  c == '\t' || c == '\n' || c == '\r' || (' ' ≤ c && c ≤ '~') || c == '\u0085'
    || (0xA0 ≤ c.toNat && c.toNat ≤ 0xFFFD) || 0x10000 ≤ c.toNat

/-- Whether a character may stand in a name. -/
def isNameChar (c : Char) : Bool := c.isAlphanum || c == '-' || c == '_'

/-- The byte order mark. -/
def byteOrderMark : Char := '\ufeff'

/-- The character at the end of a text of which more is to come. -/
def moreMark : Char := '\x00'

/-! ## §2 Moving -/

/-- A place in a text. -/
structure Place where
  rest : List Char
  index : Nat
  line : Nat
  column : Nat

namespace Place

/-- The place where a text begins. -/
def start (text : List Char) : Place := ⟨text, 0, 0, 0⟩

/-- The next character. -/
def peek (p : Place) : Option Char := p.rest.head?

/-- The character some way ahead. -/
def ahead (p : Place) (n : Nat) : Option Char := p.rest[n]?

/-- Whether a property holds of a character, or the text has ended. -/
def atEndOr (test : Char → Bool) : Option Char → Bool
  | none => true
  | some c => test c

/-- Whether the text goes on with a gap, or not at all, some way ahead. -/
def gapAhead (p : Place) (n : Nat) : Bool := atEndOr isGap (p.ahead n)

/-- The place after the next character. -/
def next (p : Place) : Place :=
  match p.rest with
  | [] => p
  | c :: rest =>
    if c == '\n' || c == '\u0085' || c == '\u2028' || c == '\u2029'
        || (c == '\r' && rest.head? != some '\n') then
      ⟨rest, p.index + 1, p.line + 1, 0⟩
    else if c == byteOrderMark then ⟨rest, p.index + 1, p.line, p.column⟩
    else ⟨rest, p.index + 1, p.line, p.column + 1⟩

/-- The place some characters further. -/
def skip : Nat → Place → Place
  | 0, p => p
  | n + 1, p => skip n p.next

/-- The characters from a place on that have a property, none of which ends a
line, and the place after them. -/
def span (test : Char → Bool) (p : Place) : List Char × Place :=
  let (taken, rest) := p.rest.span test
  let marks := taken.count byteOrderMark
  (taken, ⟨rest, p.index + taken.length, p.line, p.column + (taken.length - marks)⟩)

/-- The place after all spaces. -/
def afterSpaces (p : Place) : Place := (p.span (· == ' ')).2

/-- The line break at a place, as it is kept, and the place after it. -/
def lineBreak? (p : Place) : Option (Char × Place) :=
  match p.rest with
  | '\r' :: '\n' :: _ => some ('\n', p.next.next)
  | c :: _ =>
    if c == '\r' || c == '\n' || c == '\u0085' then some ('\n', p.next)
    else if c == '\u2028' || c == '\u2029' then some (c, p.next)
    else none
  | [] => none

/-- Whether a line of three marks stands at a place: `---` or `...`. -/
def isDivider (mark : Char) (p : Place) : Bool :=
  p.rest.take 3 == [mark, mark, mark] && p.gapAhead 3

/-- Whether a document starts or ends at a place. -/
def isDocumentBreak (p : Place) : Bool := p.isDivider '-' || p.isDivider '.'

/-! ## §3 Refusals -/

/-- Whether nothing is left of a text. -/
def isSpent (p : Place) : Bool := p.rest.isEmpty || p.rest == [moreMark]

/-- Refuses a text for what stands at a place. -/
def refuse {α : Type} (p : Place) : Except Fault α :=
  .error (if p.isSpent then .ended else .malformed)

end Place

end TreeSift.Document
