/-
  TreeSift.Regex.Source — a pattern cut into the tokens that a reader sees.

  A token is one character, or a backslash with the character after it. A reader
  always knows the next token. So a backslash at the very end is a fault as
  soon as the token before it is taken.
-/
import TreeSift.Regex.Fault

namespace TreeSift.Regex

/-- What a pattern is read by. -/
inductive Token where
  | char (c : Char)
  /-- A backslash and a character. -/
  | escape (c : Char)
  deriving DecidableEq, Repr

namespace Token

/-- The characters of a token. -/
def text : Token → List Char
  | char c => [c]
  | escape c => ['\\', c]

/-- The number of characters of a token. -/
def length : Token → Nat
  | char _ => 1
  | escape _ => 2

/-- Whether a token is a single character with a property. -/
def isChar (p : Char → Bool) : Token → Bool
  | char c => p c
  | escape _ => false

end Token

/-- A place in a pattern: the next token, what comes after it, and the position
after it. -/
structure Cursor where
  next : Option Token
  after : List Char
  index : Nat
  deriving Repr

namespace Cursor

/-- The place where what is left of a pattern begins at a position. -/
def load (rest : List Char) (position : Nat) : Except Refusal Cursor :=
  match rest with
  | [] => .ok ⟨none, [], position⟩
  | ['\\'] => .error (.fault .danglingBackslash (some position))
  | '\\' :: c :: more => .ok ⟨some (.escape c), more, position + 2⟩
  | c :: more => .ok ⟨some (.char c), more, position + 1⟩

/-- The position of the next token. -/
def position (c : Cursor) : Nat :=
  match c.next with
  | none => c.index
  | some t => c.index - t.length

/-- The place after the next token. -/
def advance (c : Cursor) : Except Refusal Cursor := load c.after c.index

/-- The number of characters from a place on, at most. -/
def room (c : Cursor) : Nat := c.after.length + 2

end Cursor

end TreeSift.Regex
