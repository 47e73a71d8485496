/-
  TreeSift.Document.Scalars — scalars as they are written.

  A plain scalar ends where a mark could begin; a quoted one ends at its quote;
  a block scalar ends where the indentation does. Line breaks within a scalar are
  folded: a single one becomes a space, of several the first is dropped. In a
  literal block scalar they stay.

  Every function gets a number of steps that no text of its length exceeds.
  What is refused is refused for what stands at a place: at the end of the text
  it could still go on.

    §1 Plain scalars   `readPlain`
    §2 Quoted scalars  `readQuoted`
    §3 Block scalars   `readBlock`
-/
import TreeSift.Document.Place
import TreeSift.Document.Token

namespace TreeSift.Document

/-! ## §1 Plain scalars -/

/-- Whether a character is a mark within flow collections. -/
def isFlowMark (c : Char) : Bool :=
  c == ',' || c == '[' || c == ']' || c == '\x7b' || c == '\x7d'

/-- Whether a plain scalar cannot go on with a character, given what follows it. -/
def endsPlain (inFlow : Bool) (c : Char) (rest : List Char) : Bool :=
  isGap c
    || (c == ':' && Place.atEndOr (fun d => isGap d || (inFlow && isFlowMark d)) rest.head?)
    || (inFlow && (c == '?' || isFlowMark c))

/-- The characters of a plain scalar up to a gap or a mark, backwards, and what
follows them. -/
def plainRun (inFlow : Bool) (taken : List Char) : List Char → List Char × List Char
  | [] => (taken, [])
  | c :: rest =>
    if endsPlain inFlow c rest then (taken, c :: rest) else plainRun inFlow (c :: taken) rest

/-- The place after some characters none of which ends a line. -/
def Place.after (p : Place) (taken rest : List Char) : Place :=
  let marks := taken.count byteOrderMark
  ⟨rest, p.index + taken.length, p.line, p.column + (taken.length - marks)⟩

/-- Goes over spaces and line breaks; the breaks, the first one left out, come
backwards. Nothing is returned where a document starts or ends. -/
def foldBreaks (breaks : List Char) : Nat → Place → Option (List Char × Place)
  | 0, p => some (breaks, p)
  | steps + 1, p =>
    if p.peek == some ' ' then foldBreaks breaks steps p.next
    else
      match p.lineBreak? with
      | none => some (breaks, p)
      | some (c, p) => if p.isDocumentBreak then none else foldBreaks (c :: breaks) steps p

/-- What a gap within a scalar becomes: `first` is the first line break in it, and
`breaks` are the others, backwards. -/
def foldGap (first : Char) (breaks : List Char) : List Char :=
  if first != '\n' then first :: breaks.reverse
  else if breaks.isEmpty then [' ']
  else breaks.reverse

/-- A scalar while it is read: its characters, backwards, the place reached, and
whether a key may begin there. -/
structure Reading where
  taken : List Char
  place : Place
  keyAllowed : Bool

/-- The gap after a part of a plain scalar; `none` if the scalar ends there. -/
def plainGap (steps : Nat) (r : Reading) : Option (List Char) × Reading :=
  let (spaces, p) := r.place.span (· == ' ')
  match p.lineBreak? with
  | none => (if spaces.isEmpty then none else some spaces, { r with place := p })
  | some (first, p) =>
    let r := { r with place := p, keyAllowed := true }
    if p.isDocumentBreak then (none, r)
    else
      match foldBreaks [] steps p with
      | none => (none, r)
      | some (breaks, p) => (some (foldGap first breaks), { r with place := p })

/-- The parts of a plain scalar and the gaps between them; `gap` is the gap before
the next part. -/
def plainParts (inFlow : Bool) (indent : Int) (fuel : Nat) (gap : List Char) :
    Nat → Reading → Reading
  | 0, r => r
  | steps + 1, r =>
    if r.place.peek == some '#' then r
    else
      let (part, rest) := plainRun inFlow [] r.place.rest
      if part.isEmpty then r
      else
        let r : Reading :=
          ⟨part ++ gap.reverse ++ r.taken, r.place.after part rest, false⟩
        match plainGap fuel r with
        | (none, r) => r
        | (some gap, r) =>
          if r.place.peek == some '#' || (!inFlow && (r.place.column : Int) < indent) then r
          else plainParts inFlow indent fuel gap steps r

/-- A plain scalar that has to be indented so far. -/
def readPlain (inFlow : Bool) (indent : Int) (fuel : Nat) (p : Place) : String × Place × Bool :=
  let r := plainParts inFlow indent fuel [] fuel ⟨[], p, false⟩
  (String.ofList r.taken.reverse, r.place, r.keyAllowed)

/-! ## §2 Quoted scalars -/

/-- What a letter after a backslash stands for. -/
def escapedChar? : Char → Option Char
  | '0' => some '\x00'
  | 'a' => some '\x07'
  | 'b' => some '\x08'
  | 't' => some '\t'
  | '\t' => some '\t'
  | 'n' => some '\n'
  | 'v' => some '\x0b'
  | 'f' => some '\x0c'
  | 'r' => some '\r'
  | 'e' => some '\x1b'
  | ' ' => some ' '
  | '"' => some '"'
  | '\\' => some '\\'
  | '/' => some '/'
  | 'N' => some '\u0085'
  | '_' => some '\u00a0'
  | 'L' => some '\u2028'
  | 'P' => some '\u2029'
  | _ => none

/-- The number of digits of an escape by number. -/
def escapeWidth? : Char → Option Nat
  | 'x' => some 2
  | 'u' => some 4
  | 'U' => some 8
  | _ => none

/-- The character of a number: there are none beyond a limit, and numbers beyond
another one are not looked at. Halves of surrogate pairs are not described here. -/
def character (n : Nat) : Except Fault Char :=
  if 0x7FFFFFFF < n then .error (.badScalar (.tooLarge "Python int too large to convert to C int"))
  else if 0x10FFFF < n then .error (.badScalar (.noValue "chr() arg not in range(0x110000)"))
  else if 0xD800 ≤ n && n ≤ 0xDFFF then .error .beyond
  else .ok (Char.ofNat n)

/-- Line breaks within quotes with the blanks around them; they come backwards. -/
def quotedBreaks (breaks : List Char) : Nat → Place → Except Fault (List Char × Place)
  | 0, p => p.refuse
  | steps + 1, p =>
    if p.isDocumentBreak then p.refuse
    else
      let (_, p) := p.span fun c => c == ' ' || c == '\t'
      match p.lineBreak? with
      | none => .ok (breaks, p)
      | some (c, p) => quotedBreaks (c :: breaks) steps p

/-- What follows a backslash. -/
def readEscape (fuel : Nat) (taken : List Char) (p : Place) : Except Fault (List Char × Place) :=
  match p.peek with
  | none => p.refuse
  | some c =>
    match escapedChar? c, escapeWidth? c with
    | some d, _ => .ok (d :: taken, p.next)
    | none, some width =>
      let digits := (p.next.rest.take width).takeWhile (Text.isDigitIn 16)
      let after := p.next.skip digits.length
      if digits.length < width then after.refuse
      else (character (Text.ofBase 16 digits)).map fun d => (d :: taken, after)
    | none, none =>
      match p.lineBreak? with
      | none => p.refuse
      | some (_, p) => do
        let (breaks, p) ← quotedBreaks [] fuel p
        return (breaks ++ taken, p)

/-- The characters between two quotes from a place within them on; `taken` are
those read before, backwards. -/
def quotedRest (quote : Char) (fuel : Nat) : Nat → List Char → Place →
    Except Fault (List Char × Place)
  | 0, _, p => p.refuse
  | steps + 1, taken, p =>
    let (part, p) := p.span fun c => !(isGap c || c == '\'' || c == '"' || c == '\\')
    let taken := part.reverse ++ taken
    match p.peek with
    | none => p.refuse
    | some c =>
      if c == quote then
        if quote == '\'' && p.ahead 1 == some '\'' then
          quotedRest quote fuel steps ('\'' :: taken) (p.skip 2)
        else .ok (taken, p.next)
      else if c == '\\' && quote == '"' then
        match readEscape fuel taken p.next with
        | .error e => .error e
        | .ok (taken, p) => quotedRest quote fuel steps taken p
      else if isGap c then
        let (spaces, p) := p.span fun c => c == ' ' || c == '\t'
        match p.lineBreak? with
        | none =>
          if p.peek.isNone then p.refuse
          else quotedRest quote fuel steps (spaces.reverse ++ taken) p
        | some (first, p) =>
          match quotedBreaks [] fuel p with
          | .error e => .error e
          | .ok (breaks, p) =>
            quotedRest quote fuel steps ((foldGap first breaks).reverse ++ taken) p
      else quotedRest quote fuel steps (c :: taken) p.next

/-- A quoted scalar at its opening quote. -/
def readQuoted (quote : Char) (fuel : Nat) (p : Place) : Except Fault (String × Place) := do
  let (taken, p) ← quotedRest quote fuel fuel [] p.next
  return (String.ofList taken.reverse, p)

/-! ## §3 Block scalars -/

/-- What becomes of the line breaks at the end of a block scalar. -/
inductive Chomping where
  | clip
  | strip
  | keep
  deriving DecidableEq, Repr

/-- The sign for what becomes of the last line breaks. -/
def chomping? : Char → Option Chomping
  | '+' => some .keep
  | '-' => some .strip
  | _ => none

/-- The digit for an indentation; nothing may not be asked for. -/
def readIncrement (c : Char) : Except Fault Nat :=
  if c == '0' then .error .malformed else .ok (c.toNat - 0x30)

/-- The signs after the mark of a block scalar. -/
def readIndicators (p : Place) : Except Fault (Chomping × Option Nat × Place) := do
  let (chomping, increment, p) ←
    match p.peek with
    | none => pure (Chomping.clip, none, p)
    | some c =>
      match chomping? c with
      | some chomping =>
        match p.ahead 1 with
        | some d =>
          if d.isDigit then pure (chomping, some (← readIncrement d), p.skip 2)
          else pure (chomping, none, p.next)
        | none => pure (chomping, none, p.next)
      | none =>
        if c.isDigit then
          let increment ← readIncrement c
          match (p.ahead 1).bind chomping? with
          | some chomping => pure (chomping, some increment, p.skip 2)
          | none => pure (.clip, some increment, p.next)
        else pure (.clip, none, p)
  if Place.atEndOr (fun c => c == ' ' || isBreak c) p.peek then return (chomping, increment, p)
  else p.refuse

/-- Leaves out the rest of a line, which holds nothing but a comment. -/
def skipIgnoredLine (p : Place) : Except Fault Place :=
  let p := p.afterSpaces
  let p := if p.peek == some '#' then (p.span (!isBreak ·)).2 else p
  match p.lineBreak? with
  | some (_, p) => .ok p
  | none => if p.peek.isNone then .ok p else p.refuse

/-- Goes over blank lines before a block scalar: the breaks, backwards, and the
greatest indentation among them. -/
def leadingBreaks (breaks : List Char) (deepest : Nat) : Nat → Place → List Char × Nat × Place
  | 0, p => (breaks, deepest, p)
  | steps + 1, p =>
    if p.peek == some ' ' then leadingBreaks breaks (max deepest p.next.column) steps p.next
    else
      match p.lineBreak? with
      | none => (breaks, deepest, p)
      | some (c, p) => leadingBreaks (c :: breaks) deepest steps p

/-- Goes over the indentation of a line, as far as it is wanted. -/
def skipIndent (indent : Nat) (p : Place) : Place :=
  let (spaces, _) := p.span (· == ' ')
  p.skip (min spaces.length (indent - p.column))

/-- Goes over blank lines within a block scalar; the breaks come backwards. -/
def blockBreaks (indent : Nat) (breaks : List Char) : Nat → Place → List Char × Place
  | 0, p => (breaks, p)
  | steps + 1, p =>
    let p := skipIndent indent p
    match p.lineBreak? with
    | none => (breaks, p)
    | some (c, p) => blockBreaks indent (c :: breaks) steps p

/-- Whether a line begins with a blank. -/
def startsBlank (p : Place) : Bool := p.peek == some ' ' || p.peek == some '\t'

/-- The lines of a block scalar: its characters, backwards, the last line break if
there is one, the blank lines after it, backwards, and the place reached. -/
def blockLines (folded : Bool) (indent fuel : Nat) (breaks : List Char) :
    Nat → List Char → Place → List Char × Option Char × List Char × Place
  | 0, taken, p => (taken, none, breaks, p)
  | steps + 1, taken, p =>
    let taken := breaks ++ taken
    let leading := startsBlank p
    let (line, p) := p.span (!isBreak ·)
    let taken := line.reverse ++ taken
    let (lineBreak, p) :=
      match p.lineBreak? with
      | none => (none, p)
      | some (c, p) => (some c, p)
    let (breaks, p) := blockBreaks indent [] fuel p
    if p.column == indent && p.peek.isSome then
      let taken :=
        if folded && lineBreak == some '\n' && !leading && !startsBlank p then
          if breaks.isEmpty then ' ' :: taken else taken
        else lineBreak.toList ++ taken
      blockLines folded indent fuel breaks steps taken p
    else (taken, lineBreak, breaks, p)

/-- A block scalar at its mark, in a collection with the given indentation. -/
def readBlock (folded : Bool) (indent : Int) (fuel : Nat) (p : Place) :
    Except Fault (String × Place) := do
  let (chomping, increment, p) ← readIndicators p.next
  let p ← skipIgnoredLine p
  let least := (max (indent + 1) 1).toNat
  let (indent, breaks, p) :=
    match increment with
    | none =>
      let (breaks, deepest, p) := leadingBreaks [] 0 fuel p
      (max least deepest, breaks, p)
    | some increment =>
      let indent := least + increment - 1
      let (breaks, p) := blockBreaks indent [] fuel p
      (indent, breaks, p)
  let (taken, lineBreak, breaks, p) :=
    if p.column == indent && p.peek.isSome then blockLines folded indent fuel breaks fuel [] p
    else ([], none, breaks, p)
  let taken := if chomping == .strip then taken else lineBreak.toList ++ taken
  let taken := if chomping == .keep then breaks ++ taken else taken
  return (String.ofList taken.reverse, p)

end TreeSift.Document
