/-
  TreeSift.Document.Lexer — from a text to its tokens.

  The lexer goes through a text once. In block context it follows the
  indentation: deeper columns open collections, shallower ones close them. Where
  a key without a mark of its own may stand, the lexer remembers the place; a
  colon on the same line, not too far from it, makes it a key, and the tokens for
  that are put in before it. A remembered key at the indentation of a collection
  has to become one.

  Where the lexer has to stop, the tokens up to there are given out all the same,
  but none from the first remembered key on, before which others may yet be put.

    §1 State
    §2 Remembered keys
    §3 Indentation
    §4 Collections and entries
    §5 Names, tags and directives
    §6 Scalars
    §7 Texts   `stream`, `tokensInTurn`, `tokens`
-/
import TreeSift.Decimal.Based
import TreeSift.Document.Scalars
import TreeSift.Keyed

namespace TreeSift.Document

/-! ## §1 State -/

/-- A place where a key may have begun. -/
structure PendingKey where
  /-- The number of tokens before it. -/
  number : Nat
  /-- Whether it has to become a key. -/
  required : Bool
  index : Nat
  line : Nat
  column : Nat

/-- What the lexer knows at a place. -/
structure Lexer where
  place : Place
  /-- The tokens read, the last one first. -/
  tokens : List Token
  /-- The number of tokens read. -/
  count : Nat
  /-- The number of flow collections that are open. -/
  flowLevel : Nat
  /-- The indentation of the innermost block collection. -/
  indent : Int
  /-- The indentations of those around it, the innermost one first. -/
  outer : List Int
  keyAllowed : Bool
  /-- The remembered keys, one for each flow level at most. -/
  keys : Keyed Nat PendingKey

namespace Lexer

/-- The lexer before a text. -/
def start (text : List Char) : Lexer := ⟨.start text, [], 0, 0, -1, [], true, []⟩

/-- Adds a token at the end. -/
def push (x : Lexer) (t : Token) : Lexer := { x with tokens := t :: x.tokens, count := x.count + 1 }

/-- Puts a token before the last ones of a list that comes backwards. -/
def insertBefore (t : Token) : Nat → List Token → List Token
  | 0, tokens => t :: tokens
  | _ + 1, [] => [t]
  | n + 1, last :: tokens => last :: insertBefore t n tokens

/-- Puts a token in after the first ones. -/
def insertAt (x : Lexer) (number : Nat) (t : Token) : Lexer :=
  { x with tokens := insertBefore t (x.count - number) x.tokens, count := x.count + 1 }

/-- Whether the lexer is within a flow collection. -/
def inFlow (x : Lexer) : Bool := x.flowLevel != 0

/-- Goes some characters further. -/
def forward (x : Lexer) (n : Nat) : Lexer := { x with place := x.place.skip n }

/-! ## §2 Remembered keys -/

/-- The greatest distance between a key without mark and its colon. -/
def keyReach : Nat := 1024

/-- Forgets the remembered keys that can no longer become keys. -/
def dropStale (x : Lexer) : Except Fault Lexer :=
  let isStale := fun (k : PendingKey) =>
    k.line != x.place.line || keyReach < x.place.index - k.index
  if x.keys.any fun k => isStale k.2 && k.2.required then .error .malformed
  else .ok { x with keys := x.keys.filter fun k => !isStale k.2 }

/-- Forgets the remembered key of this flow level. -/
def dropKey (x : Lexer) : Except Fault Lexer :=
  match Keyed.get? x.flowLevel x.keys with
  | none => .ok x
  | some k =>
    if k.required then .error .malformed
    else .ok { x with keys := x.keys.filter fun k => k.1 != x.flowLevel }

/-- Remembers that a key may begin here. -/
def saveKey (x : Lexer) : Except Fault Lexer :=
  if x.keyAllowed then do
    let required := !x.inFlow && x.indent == x.place.column
    let x ← x.dropKey
    let k : PendingKey := ⟨x.count, required, x.place.index, x.place.line, x.place.column⟩
    return { x with keys := Keyed.set x.flowLevel k x.keys }
  else return x

/-! ## §3 Indentation -/

/-- Closes collections down to an indentation, out of those given. -/
def closeFrom (column : Int) (x : Lexer) : List Int → Lexer
  | [] => x
  | outer :: more =>
    if column < x.indent then
      closeFrom column { x.push .blockEnd with indent := outer, outer := more } more
    else x

/-- Closes the block collections that are indented further than a column. -/
def unwind (x : Lexer) (column : Int) : Lexer :=
  if x.inFlow then x else closeFrom column x x.outer

/-- Opens a block collection at a column if that is further indented. -/
def indentTo (x : Lexer) (column : Nat) : Option Lexer :=
  if x.indent < column then some { x with indent := column, outer := x.indent :: x.outer } else none

/-- Goes over spaces, line breaks and comments to the next token. -/
def skipToToken : Nat → Lexer → Lexer
  | 0, x => x
  | steps + 1, x =>
    let marked := x.place.index == 0 && x.place.peek == some byteOrderMark
    let p := if marked then x.place.next else x.place
    let p := p.afterSpaces
    let p := if p.peek == some '#' then (p.span (!isBreak ·)).2 else p
    match p.lineBreak? with
    | none => { x with place := p }
    | some (_, p) =>
      skipToToken steps { x with place := p, keyAllowed := x.keyAllowed || !x.inFlow }

/-! ## §4 Collections and entries -/

/-- The mark of a document, three characters long. -/
def documentMark (t : Token) (x : Lexer) : Except Fault Lexer := do
  let x ← (x.unwind (-1)).dropKey
  return ({ x with keyAllowed := false }.push t).forward 3

/-- The opening of a flow collection. -/
def openFlow (t : Token) (x : Lexer) : Except Fault Lexer := do
  let x ← x.saveKey
  return ({ x with flowLevel := x.flowLevel + 1, keyAllowed := true }.push t).forward 1

/-- The end of a flow collection. That there is one to end is not asked here. -/
def closeFlow (t : Token) (x : Lexer) : Except Fault Lexer := do
  let x ← x.dropKey
  return ({ x with flowLevel := x.flowLevel - 1, keyAllowed := false }.push t).forward 1

/-- The comma between entries. -/
def flowEntry (x : Lexer) : Except Fault Lexer := do
  let x ← { x with keyAllowed := true }.dropKey
  return (x.push .flowEntry).forward 1

/-- Opens a block collection here, if it is a new one. -/
def openBlock (t : Token) (x : Lexer) : Except Fault Lexer :=
  if x.inFlow then .ok x
  else if !x.keyAllowed then .error .malformed
  else
    match x.indentTo x.place.column with
    | some x => .ok (x.push t)
    | none => .ok x

/-- The dash before an entry. -/
def blockEntry (x : Lexer) : Except Fault Lexer := do
  let x ← x.openBlock .blockSequenceStart
  let x ← { x with keyAllowed := true }.dropKey
  return (x.push .blockEntry).forward 1

/-- The mark before a key. -/
def keyMark (x : Lexer) : Except Fault Lexer := do
  let x ← x.openBlock .blockMappingStart
  let x ← { x with keyAllowed := !x.inFlow }.dropKey
  return (x.push .key).forward 1

/-- The colon before a value. -/
def valueMark (x : Lexer) : Except Fault Lexer := do
  match Keyed.get? x.flowLevel x.keys with
  | some k =>
    let x := { x with keys := x.keys.filter fun k => k.1 != x.flowLevel }
    let x := x.insertAt k.number .key
    let x :=
      if x.inFlow then x
      else
        match x.indentTo k.column with
        | some x => x.insertAt k.number .blockMappingStart
        | none => x
    return ({ x with keyAllowed := false }.push .value).forward 1
  | none =>
    let x ← x.openBlock .blockMappingStart
    let x ← { x with keyAllowed := !x.inFlow }.dropKey
    return (x.push .value).forward 1

/-! ## §5 Names, tags and directives -/

/-- Whether a character may follow a name. -/
def mayFollowName (c : Char) : Bool :=
  isGap c || "?:,]\x7d%@\u0060".toList.contains c

/-- An anchor or an alias. -/
def name (make : String → Token) (x : Lexer) : Except Fault Lexer := do
  let x ← x.saveKey
  let (taken, p) := x.place.next.span isNameChar
  if taken.isEmpty || !Place.atEndOr mayFollowName p.peek then p.refuse
  return { x with keyAllowed := false, place := p }.push (make (String.ofList taken))

/-- Whether a character may stand in a tag. -/
def isTagChar (c : Char) : Bool :=
  c.isAlphanum || "-;/?:@&=+$,_.!~*'()[]".toList.contains c

/-- Bytes each of which is written by a percent sign and two digits, after others. -/
def escapedBytes : Nat → List UInt8 → Place → Except Fault (List UInt8 × Place)
  | 0, _, p => p.refuse
  | steps + 1, bytes, p =>
    if p.peek != some '%' then .ok (bytes, p)
    else
      let digits := (p.next.rest.take 2).takeWhile (Text.isDigitIn 16)
      let after := p.next.skip digits.length
      if digits.length < 2 then after.refuse
      else escapedBytes steps (bytes ++ [(Text.ofBase 16 digits).toUInt8]) after

/-- The characters of a tag, after others; bytes that are escaped are UTF-8. -/
def tagChars : Nat → List Char → Place → Except Fault (List Char × Place)
  | 0, _, p => p.refuse
  | steps + 1, taken, p => do
    let (part, p) := p.span isTagChar
    let taken := taken ++ part
    if p.peek != some '%' then return (taken, p)
    let (bytes, p) ← escapedBytes steps [] p
    match String.fromUTF8? ⟨bytes.toArray⟩ with
    | some s => tagChars steps (taken ++ s.toList) p
    | none => throw .malformed

/-- The text of a tag, in which there has to be a character. -/
def readTagText (p : Place) : Except Fault (String × Place) := do
  let (taken, p) ← tagChars (p.rest.length + 2) [] p
  if taken.isEmpty then p.refuse else return (String.ofList taken, p)

/-- The handle of a tag, between two exclamation marks. -/
def readHandle (p : Place) : Except Fault (String × Place) :=
  if p.peek != some '!' then p.refuse
  else if p.ahead 1 == some ' ' then .ok ("!", p.next)
  else
    let (taken, q) := p.next.span isNameChar
    if q.peek == some '!' then .ok (String.ofList ('!' :: taken ++ ['!']), q.next)
    else q.refuse

/-- A tag. -/
def tag (x : Lexer) : Except Fault Lexer := do
  let x ← x.saveKey
  let p := x.place
  let (handle, suffix, p) ←
    if p.ahead 1 == some '<' then do
      let (suffix, p) ← readTagText (p.skip 2)
      if p.peek != some '>' then p.refuse
      pure (none, suffix, p.next)
    else if p.gapAhead 1 then pure (none, "!", p.next)
    else do
      let word := p.next.rest.takeWhile fun c => !(c == ' ' || isBreak c)
      let (handle, p) ← if word.contains '!' then readHandle p else pure ("!", p.next)
      let (suffix, p) ← readTagText p
      pure (some handle, suffix, p)
  if !Place.atEndOr (fun c => c == ' ' || isBreak c) p.peek then p.refuse
  return { x with keyAllowed := false, place := p }.push (.tag handle suffix)

/-- The number of a version. -/
def readVersionPart (p : Place) : Except Fault (Nat × Place) :=
  let (digits, after) := p.span Char.isDigit
  if digits.isEmpty then p.refuse
  else if Decimal.maxDigits < digits.length then
    .error (.badScalar (.noValue (Decimal.longMessage digits.length)))
  else .ok (Decimal.ofDigits digits, after)

/-- Expects a space or the end of the line. -/
def expectGap (p : Place) : Except Fault Unit :=
  if Place.atEndOr (fun c => c == ' ' || isBreak c) p.peek then .ok () else p.refuse

/-- What a directive line says. -/
def readDirective (p : Place) : Except Fault (Directive × Place) := do
  let (word, p) := p.span isNameChar
  if word.isEmpty then p.refuse
  expectGap p
  if word == "YAML".toList then
    let (major, p) ← readVersionPart p.afterSpaces
    if p.peek != some '.' then p.refuse
    let (_, p) ← readVersionPart p.next
    expectGap p
    return (.version major, p)
  else if word == "TAG".toList then
    let (handle, p) ← readHandle p.afterSpaces
    if p.peek != some ' ' then p.refuse
    let (replacement, p) ← readTagText p.afterSpaces
    expectGap p
    return (.tag handle replacement, p)
  else return (.unknown, (p.span (!isBreak ·)).2)

/-- A directive. -/
def directive (x : Lexer) : Except Fault Lexer := do
  let x ← (x.unwind (-1)).dropKey
  let (d, p) ← readDirective x.place.next
  let p ← skipIgnoredLine p
  return { x with keyAllowed := false, place := p }.push (.directive d)

/-! ## §6 Scalars -/

/-- A block scalar. -/
def blockScalar (folded : Bool) (fuel : Nat) (x : Lexer) : Except Fault Lexer := do
  let x ← { x with keyAllowed := true }.dropKey
  let (text, p) ← readBlock folded x.indent fuel x.place
  return { x with place := p }.push (.scalar text false)

/-- A quoted scalar. -/
def quotedScalar (quote : Char) (fuel : Nat) (x : Lexer) : Except Fault Lexer := do
  let x ← x.saveKey
  let (text, p) ← readQuoted quote fuel x.place
  return { x with place := p, keyAllowed := false }.push (.scalar text false)

/-- A plain scalar. -/
def plainScalar (fuel : Nat) (x : Lexer) : Except Fault Lexer := do
  let x ← x.saveKey
  let (text, p, keyAllowed) := readPlain x.inFlow (x.indent + 1) fuel x.place
  return { x with place := p, keyAllowed := keyAllowed }.push (.scalar text true)

/-- Whether a plain scalar may begin with a character that the text goes on with. -/
def startsPlain (x : Lexer) (c : Char) : Bool :=
  !(isGap c || "-?:,[]\x7b\x7d#&*!|>'\"%@\u0060".toList.contains c)
    || (!x.place.gapAhead 1 && (c == '-' || (!x.inFlow && (c == '?' || c == ':'))))

/-! ## §7 Texts -/

/-- The token that begins with a character. -/
def token (fuel : Nat) (c : Char) (x : Lexer) : Except Fault Lexer :=
  let atLineStart := x.place.column == 0
  let gap := x.place.gapAhead 1
  if c == '%' && atLineStart then x.directive
  else if atLineStart && x.place.isDivider '-' then x.documentMark .documentStart
  else if atLineStart && x.place.isDivider '.' then x.documentMark .documentEnd
  else if c == '[' then x.openFlow .flowSequenceStart
  else if c == '\x7b' then x.openFlow .flowMappingStart
  else if c == ']' then x.closeFlow .flowSequenceEnd
  else if c == '\x7d' then x.closeFlow .flowMappingEnd
  else if c == ',' then x.flowEntry
  else if c == '-' && gap then x.blockEntry
  else if c == '?' && (x.inFlow || gap) then x.keyMark
  else if c == ':' && (x.inFlow || gap) then x.valueMark
  else if c == '*' then x.name .alias
  else if c == '&' then x.name .anchor
  else if c == '!' then x.tag
  else if c == '|' && !x.inFlow then x.blockScalar false fuel
  else if c == '>' && !x.inFlow then x.blockScalar true fuel
  else if c == '\'' || c == '"' then x.quotedScalar c fuel
  else if x.startsPlain c then x.plainScalar fuel
  else x.place.next.refuse

/-- Reads the next token, or the end of the text, which is told; `more` says that the
text goes on where it seems to end. -/
def step (more : Bool) (fuel : Nat) (x : Lexer) : Except Fault (Lexer × Bool) := do
  let x := skipToToken fuel x
  if more && x.place.isSpent then throw .ended
  let x ← x.dropStale
  let x := x.unwind x.place.column
  match x.place.peek with
  | none => return (← (x.unwind (-1)).dropKey, true)
  | some c =>
    let x ← x.token fuel c
    if more && x.place.isSpent then throw .ended
    return (x, false)

/-- Reads on to the end of the text, or to what is wrong with it. -/
def run (more : Bool) (fuel : Nat) : Nat → Lexer → Lexer × Option Fault
  | 0, x => (x, some .malformed)
  | steps + 1, x =>
    match x.dropStale with
    | .error f => (x, some f)
    | .ok x =>
      match x.step more fuel with
      | .error f => (x, some f)
      | .ok (x, true) => (x, none)
      | .ok (x, false) => run more fuel steps x

/-- The tokens before which none can be put in any more. -/
def released (x : Lexer) : List Token :=
  x.tokens.reverse.take ((x.keys.map fun k => k.2.number).foldl min x.count)

end Lexer

/-- The tokens of a text up to its end, or up to what is wrong with it. -/
def stream (more : Bool) (text : List Char) : List Token :=
  let fuel := text.length + 2
  match (Lexer.start text).run more fuel fuel with
  | (x, none) => x.tokens.reverse
  | (x, some f) => x.released ++ [.broken f]

/-- The tokens of a text, which are read one after the other. -/
def tokensInTurn (text : List Char) : List Token :=
  if text.all isAllowed then stream false text else [.broken .malformed]

/-- The tokens of the first part of a text, which are read one after the other. -/
def tokensOfPart (part : List Char) : List Token := stream true (part ++ [moreMark])

/-- The tokens of a text. -/
def tokens (text : List Char) : Except Fault (List Token) :=
  let ts := tokensInTurn text
  match ts.getLast? with
  | some (.broken f) => .error f.whole
  | _ => .ok ts

end TreeSift.Document
