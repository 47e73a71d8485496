/-
  TreeSift.Regex.Reader — from the text of a pattern to its nodes.

  The reader goes through the tokens once, from left to right. Along the way it
  keeps the flags for the whole pattern, the names of the groups, and the width
  of every group that has been closed, for references may only go to closed
  groups. What it refuses, it refuses at the first place where the fault shows.

  A group without number and flags leaves its content to the sequence it stands
  in. Alternatives that begin with the same atoms share them, and alternatives
  of one character or set each are one set.

    §1 State
    §2 Tokens        `peek`, `take`, `accept`, `takeWhile`, `readName`
    §3 Escapes       `readEscape`, `readSetEscape`
    §4 Sets          `readSet`
    §5 Repeats       `readRepeat`
    §6 Flags         `readFlags`
    §7 Alternatives  `joinAlternatives`
    §8 Sequences     `readAlternatives`, `readSequence`, `readGroup`
    §9 Patterns      `Node.read`
-/
import TreeSift.Decimal.Integer
import TreeSift.Regex.Source
import TreeSift.Text.CharacterWord
import TreeSift.Text.Identifier
import TreeSift.Text.Letter

namespace TreeSift.Regex

/-! ## §1 State -/

/-- What the reader knows at a place. -/
structure ReaderState where
  cursor : Cursor
  /-- The flags for the whole pattern. -/
  flags : Flags
  /-- The groups that have a name. -/
  names : List (String × Nat)
  /-- The width of each group, the whole pattern first, `none` for one that is
  still open. -/
  widths : List (Option (Nat × Nat))
  /-- Within a look behind, the number of groups opened before it. -/
  lookLimit : Option Nat
  /-- The groups that conditions ask for by number, each with the position where
  it is asked for first. -/
  asked : List (Nat × Nat)

/-- A reader of a part of a pattern. -/
abbrev Reader := StateT ReaderState (Except Refusal)

namespace Reader

/-! ## §2 Tokens -/

/-- The next token. -/
def peek : Reader (Option Token) := return (← get).cursor.next

/-- The position of the next token. -/
def position : Reader Nat := return (← get).cursor.position

/-- The number of steps that suffices to read on to the end. -/
def room : Reader Nat := return (← get).cursor.room

/-- Takes the next token. -/
def take : Reader (Option Token) := do
  let s ← get
  let after ← s.cursor.advance
  set { s with cursor := after }
  return s.cursor.next

/-- Takes the next token if it is a given character. -/
def accept (c : Char) : Reader Bool := do
  if (← peek) == some (.char c) then
    let _ ← take
    return true
  else
    return false

/-- Refuses the pattern at a position a given distance before the next token. -/
def fail {α : Type} (cause : Fault) (back : Nat) : Reader α := do
  throw (.fault cause (some ((← position) - back)))

/-- Refuses the pattern at a given position. -/
def failAt {α : Type} (cause : Fault) (position : Nat) : Reader α :=
  throw (.fault cause (some position))

/-- Takes the characters with a property, a given number at most. -/
def takeWhile (p : Char → Bool) : Nat → Reader (List Char)
  | 0 => return []
  | most + 1 => do
    match ← peek with
    | some (.char c) =>
      if p c then
        let _ ← take
        return c :: (← takeWhile p most)
      else
        return []
    | _ => return []

/-- Takes everything up to a closing character and the character itself;
`before` is what has been taken, backwards. -/
def takeName (closer : Char) (what : String) (before : List Char) : Nat → Reader String
  | 0 => fail (.missing what) 0
  | steps + 1 => do
    match ← take with
    | none =>
      if before.isEmpty then fail (.missing what) 0
      else fail (.unterminatedName closer) before.length
    | some t =>
      if t == .char closer then
        if before.isEmpty then fail (.missing what) 1
        else return String.ofList before.reverse
      else takeName closer what (t.text.reverse ++ before) steps

/-- Takes a name up to a closing character. -/
def readName (closer : Char) (what : String) : Reader String := do
  takeName closer what [] (← room)

/-- Refuses a group name that is no identifier. -/
def checkName (name : String) : Reader Unit := do
  if !Text.isIdentifier name.toList then
    fail (.badName name) (name.length + 1)

/-! ## §3 Escapes -/

/-- Whether a character is a digit in base eight. -/
def isOctal (c : Char) : Bool := '0' ≤ c && c ≤ '7'

/-- A backslash and what follows it. -/
def escaped (c : Char) (more : List Char) : String := String.ofList ('\\' :: c :: more)

/-- The code point that a fixed number of hexadecimal digits gives. -/
def readHex (c : Char) (digits : Nat) : Reader Nat := do
  let more ← takeWhile (Text.isDigitIn 16) digits
  if more.length < digits then
    fail (.incompleteEscape (escaped c more)) (more.length + 2)
  let n := Text.ofBase 16 more
  if n > 0x10FFFF then
    fail (.unknownEscape (escaped c more)) (more.length + 2)
  return n

/-- Refuses a name that is not listed, which may be that of a character all the same. -/
def failName (name : String) : Reader Nat :=
  if Text.mayBeNamed name then throw (.unlistedName name)
  else fail (.undefinedCharacter name) (name.length + 4)

/-- The code point of a character that is given by name. -/
def readCharacterName : Reader Nat := do
  if !(← accept '\x7b') then fail (.missing "\x7b") 0
  let name ← readName '\x7d' "character name"
  match Text.named? name with
  | some n => return n
  | none => failName name

/-- The code point of an escape by number or name. -/
def readCode (c : Char) : Reader (Option Nat) := do
  match c with
  | 'x' => return some (← readHex c 2)
  | 'u' => return some (← readHex c 4)
  | 'U' => return some (← readHex c 8)
  | 'N' => return some (← readCharacterName)
  | _ => return none

/-- The control characters and the backslash, which have letters of their own. -/
def controlCode? : Char → Option Nat
  | 'a' => some 0x07
  | 'f' => some 0x0C
  | 'n' => some 0x0A
  | 'r' => some 0x0D
  | 't' => some 0x09
  | 'v' => some 0x0B
  | '\\' => some 0x5C
  | _ => none

/-- The classes of characters, which have letters of their own. -/
def categoryItem? : Char → Option SetItem
  | 'd' => some (.category .digit false)
  | 'D' => some (.category .digit true)
  | 's' => some (.category .space false)
  | 'S' => some (.category .space true)
  | 'w' => some (.category .word false)
  | 'W' => some (.category .word true)
  | _ => none

/-- The anchors that have letters of their own. -/
def anchor? : Char → Option Anchor
  | 'A' => some .textStart
  | 'Z' => some .textEnd
  | 'b' => some .wordBoundary
  | 'B' => some .inner
  | _ => none

/-- An escape that stands for its character; letters do not. -/
def plainEscape (c : Char) : Reader Nat := do
  if c.isAlpha || c.isDigit then fail (.unknownEscape (escaped c [])) 2
  return c.toNat

/-- What an escape within a set stands for. -/
def readSetEscape (c : Char) : Reader SetItem := do
  if c = 'b' then return .code 0x08
  if let some n := controlCode? c then return .code n
  if let some item := categoryItem? c then return item
  if let some n := ← readCode c then return .code n
  if isOctal c then
    let more ← takeWhile isOctal 2
    let n := Text.ofBase 8 (c :: more)
    if n > 0o377 then fail (.largeOctal (escaped c more)) (more.length + 2)
    return .code n
  return .code (← plainEscape c)

/-- The width of a group, if it is closed. -/
def closedWidth? (index : Nat) : Reader (Option (Nat × Nat)) := do
  return ((← get).widths[index]?).join

/-- Refuses, within a look behind, a group that is open or belongs to it. -/
def checkLook (index : Nat) : Reader Unit := do
  if let some limit := (← get).lookLimit then
    if (← closedWidth? index).isNone then fail .openGroup 0
    if limit ≤ index then fail .groupOfSameLook 0

/-- A reference to a group by number. -/
def readReference (digits : List Char) : Reader Atom := do
  let index := Text.ofBase 10 digits
  if (← get).widths.length ≤ index then fail (.unknownGroup index) digits.length
  if (← closedWidth? index).isNone then fail .openGroup (digits.length + 1)
  checkLook index
  return .reference index

/-- What an escape with a digit stands for: three octal digits are a character,
and so is whatever starts with zero; all else is a reference. -/
def readNumbered (c : Char) : Reader Atom := do
  if c = '0' then
    return .code (Text.ofBase 8 (← takeWhile isOctal 2))
  match ← takeWhile Char.isDigit 1 with
  | [] => readReference [c]
  | d :: _ =>
    if isOctal c && isOctal d then
      match ← takeWhile isOctal 1 with
      | [] => readReference [c, d]
      | e :: _ =>
        let n := Text.ofBase 8 [c, d, e]
        if n > 0o377 then fail (.largeOctal (escaped c [d, e])) 4
        return .code n
    else
      readReference [c, d]

/-- What an escape outside of sets stands for. -/
def readEscape (c : Char) : Reader Atom := do
  if let some a := anchor? c then return .anchor a
  if let some item := categoryItem? c then return .set false [item]
  if let some n := controlCode? c then return .code n
  if let some n := ← readCode c then return .code n
  if c.isDigit then readNumbered c
  else return .code (← plainEscape c)

/-! ## §4 Sets -/

/-- The text of a token. -/
def tokenText (t : Token) : String := String.ofList t.text

/-- What a token within a set stands for. -/
def readSetItem : Token → Reader SetItem
  | .char c => return .code c.toNat
  | .escape c => readSetEscape c

/-- The range between two items. -/
def readRange (first last : Token) (lo hi : SetItem) : Reader SetItem := do
  match lo, hi with
  | .code m, .code n =>
    if n < m then
      fail (.badRange (tokenText first) (tokenText last)) (first.length + 1 + last.length)
    else return .range m n
  | _, _ => fail (.badRange (tokenText first) (tokenText last)) (first.length + 1 + last.length)

/-- Reads the items of a set that opens at a position; `items` are those read
before, the last one first. -/
def readItems (opening : Nat) (items : List SetItem) : Nat → Reader (List SetItem)
  | 0 => failAt .unterminatedSet opening
  | steps + 1 => do
    match ← take with
    | none => failAt .unterminatedSet opening
    | some t =>
      if t == .char ']' && !items.isEmpty then return items.reverse
      let item ← readSetItem t
      if ← accept '-' then
        match ← take with
        | none => failAt .unterminatedSet opening
        | some u =>
          if u == .char ']' then
            return (.code '-'.toNat :: item :: items).reverse
          let last ← readSetItem u
          readItems opening ((← readRange t u item last) :: items) steps
      else readItems opening (item :: items) steps

/-- The atom of a set with the given parts. -/
def setAtom (negated : Bool) : List SetItem → Atom
  | [.code n] => if negated then .notCode n else .code n
  | items => .set negated items

/-- Reads a set after its opening bracket. -/
def readSet : Reader Atom := do
  let opening := (← position) - 1
  let negated ← accept '^'
  let items ← readItems opening [] (← room)
  return setAtom negated items.eraseDups

/-! ## §5 Repeats -/

/-- The least number of repetitions that is refused, and the number that stands
for having no limit. -/
def countLimit : Nat := 4294967295

/-- A number of repetitions, if one is written. -/
def readCount (digits : List Char) : Reader (Option Nat) := do
  if digits.isEmpty then return none
  if digits.length > Decimal.maxDigits then throw (.longCount digits.length)
  let n := Decimal.ofDigits digits
  if countLimit ≤ n then throw .largeCount
  return some n

/-- The numbers that a quantifier writes in braces, from their digits on. Without the
closing brace it is none, and reading goes back to where it began. -/
def closeBounds (start : ReaderState) (here : Nat) (low high : List Char) :
    Reader (Option (Nat × Option Nat)) := do
  if !(← accept '\x7d') then
    set start
    return none
  let least ← readCount low
  let most ← readCount high
  if let (some l, some m) := (least, most) then
    if m < l then failAt .emptyCountRange (here + 1)
  return some (least.getD 0, most)

/-- The least and the greatest number of repetitions of a quantifier that
stands at a position; `none` if the brace opens no quantifier. -/
def readBounds (quantifier : Char) (here : Nat) : Reader (Option (Nat × Option Nat)) := do
  match quantifier with
  | '?' => return some (0, some 1)
  | '*' => return some (0, none)
  | '+' => return some (1, none)
  | _ =>
    let start ← get
    if start.cursor.next == some (.char '\x7d') then return none
    let low ← takeWhile Char.isDigit (← room)
    if ← accept ',' then closeBounds start here low (← takeWhile Char.isDigit (← room))
    else closeBounds start here low low

/-- How a repeat chooses, as one character after its quantifier may tell. -/
def readGreed : Reader Greed := do
  if ← accept '?' then return .lazy
  if ← accept '+' then return .possessive
  return .greedy

/-- What a quantifier repeats of the node before it. -/
def repeatBody : Node → Node
  | .group none [] [] body => body
  | n => n

/-- Applies a quantifier at a position to the last node of a sequence; the nodes
come backwards. -/
def readRepeat (quantifier : Char) (here : Nat) (nodes : List Node) : Reader (List Node) := do
  match ← readBounds quantifier here with
  | none => return .atom (.code quantifier.toNat) :: nodes
  | some (least, most) =>
    match nodes with
    | [] => failAt .nothingToRepeat here
    | .atom (.anchor _) :: _ => failAt .nothingToRepeat here
    | .repeated _ _ _ _ :: _ => failAt .repeatOfRepeat here
    | last :: before =>
      return .repeated (← readGreed) least most (repeatBody last) :: before

/-! ## §6 Flags -/

/-- The flag of a letter. -/
def flag? : Char → Option Flag
  | 'i' => some .ignoreCase
  | 'm' => some .multiLine
  | 's' => some .dotAll
  | 'x' => some .verbose
  | 'a' => some .ascii
  | 't' => some .template
  | 'u' => some .unicode
  | _ => none

/-- Whether a character is the letter of a flag, the locale flag included. -/
def isFlagLetter (c : Char) : Bool := c = 'L' || (flag? c).isSome

/-- Refuses a token where a flag should be. -/
def failFlag {α : Type} (t : Token) (wanted : String) : Reader α :=
  fail (if t.isChar Text.isLetter then .unknownFlag else .missing wanted) t.length

/-- Adds a flag to a set. -/
def addFlag (f : Flag) (fs : Flags) : Flags := if fs.contains f then fs else fs ++ [f]

/-- Reads flags to be switched on, from the letter `c` on, up to the character
that ends them. -/
def readAdded (c : Char) (added : Flags) : Nat → Reader (Flags × Char)
  | 0 => fail (.missing "-, : or )") 0
  | steps + 1 => do
    match flag? c with
    | none => fail .localeFlag 0
    | some f =>
      let added := addFlag f added
      if f.choosesAlphabet && added.any fun g => g.choosesAlphabet && g != f then
        fail .twoAlphabets 0
      match ← take with
      | none => fail (.missing "-, : or )") 0
      | some t =>
        match t with
        | .char ')' => return (added, ')')
        | .char '-' => return (added, '-')
        | .char ':' => return (added, ':')
        | .char d =>
          if isFlagLetter d then readAdded d added steps else failFlag t "-, : or )"
        | .escape _ => failFlag t "-, : or )"

/-- Reads flags to be switched off, from the letter `c` on, up to the colon. -/
def readRemoved (c : Char) (removed : Flags) : Nat → Reader Flags
  | 0 => fail (.missing ":") 0
  | steps + 1 => do
    match flag? c with
    | none => fail .alphabetOff 0
    | some f =>
      if f.choosesAlphabet then fail .alphabetOff 0
      let removed := addFlag f removed
      match ← take with
      | none => fail (.missing ":") 0
      | some t =>
        match t with
        | .char ':' => return removed
        | .char d => if isFlagLetter d then readRemoved d removed steps else failFlag t ":"
        | .escape _ => failFlag t ":"

/-- Reads on after the flags to be switched on and the character that ends them. -/
def closeFlags (added : Flags) (closer : Char) : Reader (Option (Flags × Flags)) := do
  if closer = ')' then
    modify fun s => { s with flags := added.foldl (fun fs f => addFlag f fs) s.flags }
    return none
  if added.contains .template then fail .globalFlagOn 1
  if closer = ':' then return some (added, [])
  match ← take with
  | none => fail (.missing "flag") 0
  | some t =>
    match t with
    | .char d =>
      if !isFlagLetter d then failFlag t "flag"
      let removed ← readRemoved d [] (← room)
      if removed.contains .template then fail .globalFlagOff 1
      if removed.any added.contains then fail .flagOnAndOff 1
      return some (added, removed)
    | .escape _ => failFlag t "flag"

/-- Reads flags from the character `c` on: `none` when they are for the whole
pattern, else the flags switched on and off for a group. -/
def readFlags (c : Char) : Reader (Option (Flags × Flags)) := do
  if c = '-' then closeFlags [] '-'
  else
    let (added, closer) ← readAdded c [] (← room)
    closeFlags added closer

/-! ## §7 Alternatives -/

/-- The atoms that all alternatives begin with, and what is left of each. -/
def sharedStart : List Node → List (List Node) → List Node × List Node × List (List Node)
  | .atom a :: rest, others =>
    if others.all fun nodes => nodes.head? == some (.atom a) then
      let (shared, first, more) := sharedStart rest (others.map List.tail)
      (.atom a :: shared, first, more)
    else ([], .atom a :: rest, others)
  | first, others => ([], first, others)

/-- The items of an alternative that is one character or one set. -/
def asItems? : List Node → Option (List SetItem)
  | [.atom (.code n)] => some [.code n]
  | [.atom (.set false items)] => some items
  | _ => none

/-- Alternatives as one sequence. -/
def joinAlternatives : List (List Node) → List Node
  | [] => []
  | [only] => only
  | first :: others =>
    let (shared, first, others) := sharedStart first others
    match (first :: others).mapM asItems? with
    | some items => shared ++ [.atom (.set false items.flatten.eraseDups)]
    | none => shared ++ [Node.ofAlternatives ((first :: others).map Node.ofList)]

/-- The nodes of a sequence, given backwards; a group without number and flags
leaves its content to it. -/
def unpack (nodes : List Node) : List Node :=
  nodes.reverse.flatMap fun
    | .group none [] [] body => body.toList
    | n => [n]

/-! ## §8 Sequences -/

/-- Leaves out a comment that runs to the end of the line. -/
def skipLine : Nat → Reader Unit
  | 0 => return
  | steps + 1 => do
    match ← take with
    | none => return
    | some t => if t == .char '\n' then return else skipLine steps

/-- Leaves out a comment in parentheses that open at a position. -/
def skipComment (opening : Nat) : Nat → Reader Unit
  | 0 => failAt .unterminatedComment opening
  | steps + 1 => do
    if (← peek).isNone then failAt .unterminatedComment opening
    if (← take) == some (.char ')') then return
    skipComment opening steps

/-- Opens a group, with a name or without one. -/
def openGroup (name : Option String) : Reader Nat := do
  let s ← get
  let index := s.widths.length
  set { s with widths := s.widths ++ [none] }
  if let some name := name then
    if let some earlier := s.names.lookup name then
      fail (.repeatedName name index earlier) (name.length + 1)
    modify fun s => { s with names := s.names ++ [(name, index)] }
  return index

/-- Closes a group with the given content. -/
def closeGroup (index : Nat) (body : Node) : Reader Unit :=
  modify fun s =>
    let width := body.width fun g => ((s.widths[g]?).join).getD (0, 0)
    { s with widths := s.widths.set index (some width) }

/-- The number of groups that a pattern may not reach. -/
def groupLimit : Nat := 1073741823

/-- The group that a condition asks for, by name or by number. -/
def readConditionGroup : Reader Nat := do
  let name ← readName ')' "group name"
  if Text.isIdentifier name.toList then
    match (← get).names.lookup name with
    | some index => return index
    | none => fail (.unknownName name) (name.length + 1)
  else
    match Decimal.readInteger name with
    | some (.ofNat index) =>
      if index = 0 then fail .zeroGroup (name.length + 1)
      if groupLimit ≤ index then fail (.unknownGroup index) (name.length + 1)
      let here := (← position) - name.length - 1
      modify fun s =>
        if (s.asked.lookup index).isSome then s
        else { s with asked := s.asked ++ [(index, here)] }
      return index
    | _ => fail (.badName name) (name.length + 1)

/-- A reference to a group by name, after its opening. -/
def readNamedReference : Reader Atom := do
  let name ← readName ')' "group name"
  checkName name
  match (← get).names.lookup name with
  | none => fail (.unknownName name) (name.length + 1)
  | some index =>
    if (← closedWidth? index).isNone then fail .openGroup (name.length + 1)
    checkLook index
    return .reference index

/-- What the opening of a group says about it. -/
inductive Opening where
  /-- A group with a number, and perhaps a name. -/
  | capture (name : Option String)
  /-- A group without number, with flags for its content. -/
  | plain (added removed : Flags)
  | atomic
  | look (behind negated : Bool)
  | condition
  | comment
  | reference (a : Atom)
  /-- Flags for the whole pattern. -/
  | flags

/-- Reads the opening of a group after its parenthesis. -/
def readOpening : Reader Opening := do
  if !(← accept '?') then return .capture none
  match ← take with
  | none => fail .endOfPattern 0
  | some (.escape c) => fail (.unknownExtension ("?" ++ escaped c [])) 3
  | some (.char c) =>
    match c with
    | 'P' =>
      if ← accept '<' then
        let name ← readName '>' "group name"
        checkName name
        return .capture (some name)
      if ← accept '=' then return .reference (← readNamedReference)
      match ← take with
      | none => fail .endOfPattern 0
      | some t => fail (.unknownExtension ("?P" ++ tokenText t)) (t.length + 2)
    | ':' => return .plain [] []
    | '#' => return .comment
    | '=' => return .look false false
    | '!' => return .look false true
    | '<' =>
      match ← take with
      | none => fail .endOfPattern 0
      | some (.char '=') => return .look true false
      | some (.char '!') => return .look true true
      | some t => fail (.unknownExtension ("?<" ++ tokenText t)) (t.length + 2)
    | '(' => return .condition
    | '>' => return .atomic
    | _ =>
      if isFlagLetter c || c = '-' then
        match ← readFlags c with
        | none => return .flags
        | some (added, removed) => return .plain added removed
      else fail (.unknownExtension ("?" ++ String.ofList [c])) 2

/-- Expects the parenthesis that closes a group opened at a position. -/
def closeParenthesis (opening : Nat) : Reader Unit := do
  if !(← accept ')') then failAt .unterminatedGroup opening

/-- Whether blanks and comments are left out within a group. -/
def verboseWithin (verbose : Bool) (added removed : Flags) : Bool :=
  (verbose || added.contains .verbose) && !removed.contains .verbose

/-- Whether a character is a blank that a verbose pattern leaves out. -/
def isFiller (c : Char) : Bool :=
  c == ' ' || c == '\t' || c == '\n' || c == '\r' || c == '\x0b' || c == '\x0c'

mutual

/-- Reads alternatives up to the end of a group or of the pattern. `outermost`
tells whether they are the pattern itself, `items` are the alternatives read
before, the last one first. -/
def readAlternatives (verbose outermost : Bool) (items : List (List Node)) :
    Nat → Reader (List Node)
  | 0 => throw .largeCount
  | steps + 1 => do
    let item ← readSequence verbose (outermost && items.isEmpty) [] steps
    if ← accept '|' then
      let flags := (← get).flags
      let verbose := if outermost then flags.contains .verbose else verbose
      readAlternatives verbose outermost (item :: items) steps
    else return joinAlternatives (item :: items).reverse

/-- Reads one alternative. `leading` tells whether it may set flags for the whole
pattern, `nodes` are the nodes read before, the last one first. -/
def readSequence (verbose leading : Bool) (nodes : List Node) : Nat → Reader (List Node)
  | 0 => throw .largeCount
  | steps + 1 => do
    let here ← position
    match ← peek with
    | none => return unpack nodes
    | some (.escape c) =>
      let _ ← take
      let a ← readEscape c
      readSequence verbose leading (.atom a :: nodes) steps
    | some (.char c) =>
      if c = '|' || c = ')' then return unpack nodes
      let _ ← take
      if verbose && isFiller c then readSequence verbose leading nodes steps
      else if verbose && c = '#' then
        skipLine (← room)
        readSequence verbose leading nodes steps
      else
        match c with
        | '[' =>
          let a ← readSet
          readSequence verbose leading (.atom a :: nodes) steps
        | '(' =>
          let (verbose, nodes) ← readGroup verbose leading here nodes steps
          readSequence verbose leading nodes steps
        | '.' => readSequence verbose leading (.atom .any :: nodes) steps
        | '^' => readSequence verbose leading (.atom (.anchor .start) :: nodes) steps
        | '$' => readSequence verbose leading (.atom (.anchor .finish) :: nodes) steps
        | _ =>
          if c = '*' || c = '+' || c = '?' || c = '\x7b' then
            let nodes ← readRepeat c here nodes
            readSequence verbose leading nodes steps
          else readSequence verbose leading (.atom (.code c.toNat) :: nodes) steps

/-- Reads a group after the parenthesis that opens it at a position. Flags for
the whole pattern may change how the rest of the sequence is read. -/
def readGroup (verbose leading : Bool) (opening : Nat) (nodes : List Node) :
    Nat → Reader (Bool × List Node)
  | 0 => throw .largeCount
  | steps + 1 => do
    match ← readOpening with
    | .comment =>
      skipComment opening (← room)
      return (verbose, nodes)
    | .reference a => return (verbose, .atom a :: nodes)
    | .flags =>
      if !leading || !nodes.isEmpty then failAt .lateFlags opening
      return ((← get).flags.contains .verbose, nodes)
    | .look behind negated =>
      let limit := (← get).lookLimit
      if behind && limit.isNone then
        modify fun s => { s with lookLimit := some s.widths.length }
      let body ← readAlternatives verbose false [] steps
      if behind && limit.isNone then
        modify fun s => { s with lookLimit := none }
      closeParenthesis opening
      return (verbose, .look behind negated (Node.ofList body) :: nodes)
    | .condition =>
      let index ← readConditionGroup
      checkLook index
      let yes ← readSequence verbose false [] steps
      let no ←
        if ← accept '|' then
          let no ← readSequence verbose false [] steps
          if (← peek) == some (.char '|') then fail .thirdBranch 0
          pure no
        else pure []
      closeParenthesis opening
      return (verbose, .condition index (Node.ofList yes) (Node.ofList no) :: nodes)
    | .capture name =>
      let index ← openGroup name
      let body := Node.ofList (← readAlternatives verbose false [] steps)
      closeParenthesis opening
      closeGroup index body
      return (verbose, .group (some index) [] [] body :: nodes)
    | .atomic =>
      let body ← readAlternatives verbose false [] steps
      closeParenthesis opening
      return (verbose, .atomic (Node.ofList body) :: nodes)
    | .plain added removed =>
      let body ← readAlternatives (verboseWithin verbose added removed) false [] steps
      closeParenthesis opening
      return (verbose, .group none added removed (Node.ofList body) :: nodes)

end

/-- Refuses a condition on a group that the pattern does not have. -/
def checkAsked : Reader Unit := do
  let s ← get
  if let some (index, here) := s.asked.find? fun a => s.widths.length ≤ a.1 then
    failAt (.unknownGroup index) here

/-- Reads a whole pattern. -/
def readPattern : Reader Node := do
  let nodes ← readAlternatives false true [] (3 * (← room) + 3)
  let flags := (← get).flags
  if flags.contains .ascii && flags.contains .unicode then throw .clashingAlphabets
  if (← peek).isSome then fail .unopenedGroup 0
  checkAsked
  return Node.ofList nodes

end Reader

/-! ## §9 Patterns -/

/-- A pattern that has been read: its node, the flags for the whole of it and
the widths of its groups. -/
structure Pattern where
  node : Node
  flags : Flags
  widths : List (Option (Nat × Nat))

/-- Reads a pattern. -/
def Pattern.read (text : String) : Except Refusal Pattern := do
  let cursor ← Cursor.load text.toList 0
  let (node, s) ← Reader.readPattern.run ⟨cursor, [], [], [none], none, []⟩
  return ⟨node, s.flags, s.widths⟩

end TreeSift.Regex
