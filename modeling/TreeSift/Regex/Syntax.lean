/-
  TreeSift.Regex.Syntax — regular expressions as they are written.

  A regular expression is a tree of nodes: characters, sets and anchors are its
  atoms; sequences, alternatives, groups, repeats, looks around and conditions
  combine them. Characters are code points, because a pattern may name one that
  no text holds. Flags are still where they were written.

    §1 Flags
    §2 Atoms
    §3 Nodes   `Node.ofList`, `Node.toList`
    §4 Widths  `Node.width`
-/

namespace TreeSift.Regex

/-! ## §1 Flags -/

/-- What can be switched on within a pattern. -/
inductive Flag where
  | ignoreCase
  | multiLine
  | dotAll
  | verbose
  | ascii
  | template
  | unicode
  deriving DecidableEq, Repr

/-- A set of flags. -/
abbrev Flags := List Flag

namespace Flag

/-- Whether a flag chooses the alphabet. -/
def choosesAlphabet : Flag → Bool
  | ascii => true
  | unicode => true
  | _ => false

end Flag

/-! ## §2 Atoms -/

/-- Classes of characters that have a letter of their own. -/
inductive Category where
  | digit
  | space
  | word
  deriving DecidableEq, Repr

/-- What a set of characters is made of. -/
inductive SetItem where
  | code (n : Nat)
  | range (first last : Nat)
  | category (c : Category) (negated : Bool)
  deriving DecidableEq, Repr

/-- Places between characters. -/
inductive Anchor where
  /-- The start of the text, or of a line. -/
  | start
  /-- The end of the text, before a line feed at its end, or the end of a line. -/
  | finish
  /-- The start of the text. -/
  | textStart
  /-- The end of the text. -/
  | textEnd
  /-- A place between a word character and another one. -/
  | wordBoundary
  /-- A place that is no word boundary. -/
  | inner
  deriving DecidableEq, Repr

/-- The parts of a pattern that have no parts. -/
inductive Atom where
  | code (n : Nat)
  | notCode (n : Nat)
  /-- Any character. -/
  | any
  | set (negated : Bool) (items : List SetItem)
  | anchor (a : Anchor)
  /-- What a group has matched. -/
  | reference (group : Nat)
  deriving DecidableEq, Repr

/-! ## §3 Nodes -/

/-- How a repeat chooses among its counts. -/
inductive Greed where
  /-- As many as possible first. -/
  | greedy
  /-- As few as possible first. -/
  | lazy
  /-- As many as possible and no other number. -/
  | possessive
  deriving DecidableEq, Repr

/-- A regular expression. -/
inductive Node where
  | empty
  | atom (a : Atom)
  | seq (first rest : Node)
  | alt (first rest : Node)
  | group (index : Option Nat) (added removed : Flags) (body : Node)
  | atomic (body : Node)
  | repeated (greed : Greed) (least : Nat) (most : Option Nat) (body : Node)
  | look (behind negated : Bool) (body : Node)
  | condition (group : Nat) (yes no : Node)
  deriving DecidableEq, Repr

namespace Node

/-- A sequence of nodes as one node. -/
def ofList : List Node → Node
  | [] => empty
  | [n] => n
  | n :: rest => seq n (ofList rest)

/-- The nodes of a sequence. -/
def toList : Node → List Node
  | empty => []
  | seq first rest => first :: rest.toList
  | n => [n]

/-- Alternatives as one node. -/
def ofAlternatives : List Node → Node
  | [] => empty
  | [n] => n
  | n :: rest => alt n (ofAlternatives rest)

/-! ## §4 Widths -/

/-- The greatest number that a width is given as. -/
def widthLimit : Nat := Nat.pow 2 64

/-- The least and the greatest number of characters that a node matches, given
those of each group, before the limit is applied. -/
def rawWidth (groups : Nat → Nat × Nat) : Node → Nat × Nat
  | empty => (0, 0)
  | atom (.anchor _) => (0, 0)
  | atom (.reference g) => groups g
  | atom _ => (1, 1)
  | seq a b =>
    let (l, h) := rawWidth groups a
    let (l', h') := rawWidth groups b
    (l + l', h + h')
  | alt a b =>
    let (l, h) := rawWidth groups a
    let (l', h') := rawWidth groups b
    (min (min l l') widthLimit, min (max h h') widthLimit)
  | group _ _ _ body | atomic body =>
    let (l, h) := rawWidth groups body
    (min l widthLimit, min h widthLimit)
  | repeated _ least most body =>
    let (l, h) := rawWidth groups body
    let (l, h) := (min l widthLimit, min h widthLimit)
    match most with
    | some m => (l * least, h * m)
    | none => (l * least, if h = 0 then 0 else widthLimit)
  | look _ _ _ => (0, 0)
  | condition _ yes no =>
    let (l, h) := rawWidth groups yes
    let (l', h') := rawWidth groups no
    (min (min l l') widthLimit, min (max h h') widthLimit)

/-- The least and the greatest number of characters that a node matches. -/
def width (groups : Nat → Nat × Nat) (n : Node) : Nat × Nat :=
  let (l, h) := n.rawWidth groups
  (min l widthLimit, min h widthLimit)

end Node

end TreeSift.Regex
