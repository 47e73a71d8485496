/-
  TreeSift.Command.Word — what a word of a command line is.

  A word that starts with a hyphen is a switch: by its full name, by the start
  of a long name that fits one switch only, or as a short name with more text
  joined to it. A long name may have a value joined to it with an equals sign.
  A lone hyphen, a negative number and a word with a space in it are no
  switches. A word of two hyphens is a separator, after which nothing is a
  switch any more.

    §1 Words    `Word`
    §2 Numbers  `isNegativeNumber`
    §3 Reading  `Grammar.read`, `Grammar.readAll`
-/
import TreeSift.Command.Grammar
import TreeSift.Text.Numeral

namespace TreeSift

/-! ## §1 Words -/

/-- Text that is joined to the name of a switch. -/
structure Joined where
  /-- Whether an equals sign stands before it. -/
  afterEquals : Bool
  text : List Char
  deriving DecidableEq, Repr

/-- What a word of a command line is. -/
inductive Word where
  | plain
  /-- Two hyphens, after which all words are plain. -/
  | separator
  | switch (s : Switch) (name : String) (joined : Option Joined)
  /-- A word that looks like a switch and is none. -/
  | unknown
  deriving DecidableEq, Repr

namespace Word

/-- Whether a word stands where a switch would. -/
def isSwitch : Word → Bool
  | switch _ _ _ => true
  | unknown => true
  | _ => false

/-- Whether a word is a separator. -/
def isSeparator : Word → Bool
  | separator => true
  | _ => false

end Word

/-- Why a line is not carried out. -/
inductive Exit where
  /-- Help is asked for. -/
  | help
  /-- The version is asked for. -/
  | version
  /-- The line is wrong. -/
  | usage
  deriving DecidableEq, Repr

/-! ## §2 Numbers -/

/-- A text without a line feed at its end. -/
def withoutFinalBreak (s : List Char) : List Char :=
  if s.getLast? = some '\n' then s.dropLast else s

/-- Whether a text is one or more digits. -/
def isDigits (s : List Char) : Bool := !s.isEmpty && s.all Text.isDigit

/-- Whether a text is a hyphen and a number, with or without a point. -/
def isNegativeNumber : List Char → Bool
  | '-' :: rest =>
    let number := withoutFinalBreak rest
    isDigits number ||
      match number.dropWhile Text.isDigit with
      | '.' :: fraction => isDigits fraction
      | _ => false
  | _ => false

/-! ## §3 Reading -/

/-- A word before its first equals sign, and what follows the sign. -/
def cutAtEquals (word : List Char) : List Char × Option Joined :=
  let before := word.takeWhile (· ≠ '=')
  match word.dropWhile (· ≠ '=') with
  | [] => (before, none)
  | _ :: text => (before, some ⟨true, text⟩)

namespace Grammar

/-- The switches that a word may mean whose name it does not give in full. -/
def candidates (g : Grammar) (word : List Char) : List Word :=
  match word with
  | '-' :: '-' :: _ =>
    let (start, joined) := cutAtEquals word
    g.named.filterMap fun (name, s) =>
      if start.isPrefixOf name.toList then some (.switch s name joined) else none
  | _ =>
    g.named.filterMap fun (name, s) =>
      if name.toList = word.take 2 then some (.switch s name (some ⟨false, word.drop 2⟩))
      else if word.isPrefixOf name.toList then some (.switch s name none)
      else none

/-- What a word is that is not a full name and has more than a hyphen. -/
def readPartial (g : Grammar) (word : List Char) : Except Exit Word :=
  match g.candidates word with
  | [one] => .ok one
  | _ :: _ :: _ => .error .usage
  | [] => .ok (if isNegativeNumber word || word.contains ' ' then .plain else .unknown)

/-- What a word before the separator is. -/
def read (g : Grammar) (text : String) : Except Exit Word :=
  match text.toList with
  | ['-'] => .ok .plain
  | '-' :: rest =>
    match g.switch? text with
    | some s => .ok (.switch s text none)
    | none =>
      let (before, joined) := cutAtEquals ('-' :: rest)
      let name := String.ofList before
      match joined, g.switch? name with
      | some joined, some s => .ok (.switch s name (some joined))
      | _, _ => g.readPartial ('-' :: rest)
  | _ => .ok .plain

/-- The word that separates switches from plain words. -/
def separatorText : String := "--"

/-- The words of a line, each with what it is. -/
def readAll (g : Grammar) : List String → Except Exit (List (String × Word))
  | [] => .ok []
  | text :: rest =>
    if text = separatorText then
      .ok ((text, .separator) :: rest.map fun more => (more, .plain))
    else do
      let word ← g.read text
      return (text, word) :: (← readAll g rest)

end Grammar

end TreeSift
