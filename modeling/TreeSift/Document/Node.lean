/-
  TreeSift.Document.Node — from tokens to a tree.

  A node is a scalar, a sequence or a mapping, perhaps with a tag. An alias
  stands for the node with its anchor, which has to come before it; no anchor is
  given twice. Every mapping has a number of its own, so that one that stands at
  several places is known again. A text holds one document at most.

  Every function gets a number of steps that no list of tokens of its length
  exceeds, and the room that is left for nodes within nodes.

    §1 Nodes
    §2 State     `NodeReader`
    §3 Nodes and collections
    §4 Documents `Node.ofTokens`
-/
import TreeSift.Document.Token
import TreeSift.Keyed

namespace TreeSift.Document

/-! ## §1 Nodes -/

/-- A part of a structured text. -/
inductive Node where
  /-- A scalar; a plain one is written without quotes. -/
  | scalar (tag : Option String) (text : String) (plain : Bool)
  | sequence (tag : Option String) (items : List Node)
  /-- A mapping; its number is how many tokens there are from its first one on. -/
  | mapping (number : Nat) (tag : Option String) (entries : List (Node × Node))

namespace Node

/-- The node of a place where nothing is written. -/
def empty : Node := scalar none "" true

/-- How deep nodes may lie within one another. Every level takes two calls out of the
thousand that the stack of an interpreter holds by default; the rest is what the calls
around the reader and within the lexer take. -/
def maxDepth : Nat := 490

end Node

/-! ## §2 State -/

/-- What has not been read yet, and what names stand for. -/
structure NodeReader where
  rest : List Token
  /-- The anchors; one is without its node until that is complete. -/
  anchors : Keyed String (Option Node)
  /-- What the handles of tags stand for. -/
  handles : Keyed String String

namespace NodeReader

/-- The handles that every document has. -/
def usualHandles : Keyed String String := [("!", "!"), ("!!", "tag:yaml.org,2002:")]

/-- The reader after the next token. -/
def skip (r : NodeReader) : NodeReader := { r with rest := r.rest.tail }

/-- Whether the next token is one of some; at the end it is none. -/
def sees (r : NodeReader) (ts : List Token) : Bool :=
  match r.rest with
  | [] => false
  | t :: _ => ts.contains t

/-- Refuses what comes next: there may be a token that is out of place, or none. -/
def refuse {α : Type} (r : NodeReader) : Except Fault α :=
  match r.rest with
  | .broken f :: _ => .error f
  | _ => .error .malformed

/-- Makes sure that the text could be cut as far as the next token. -/
def expectToken (r : NodeReader) : Except Fault Unit :=
  match r.rest with
  | .broken f :: _ => .error f
  | _ => .ok ()

/-- Reads the anchor and the tag before a node, in either order. -/
def properties (r : NodeReader) : Option String × Option (Option String × String) × NodeReader :=
  match r.rest with
  | .anchor a :: .tag h s :: rest => (some a, some (h, s), { r with rest })
  | .tag h s :: .anchor a :: rest => (some a, some (h, s), { r with rest })
  | .anchor a :: rest => (some a, none, { r with rest })
  | .tag h s :: rest => (none, some (h, s), { r with rest })
  | _ => (none, none, r)

/-- The whole text of a tag. -/
def resolveTag (r : NodeReader) : Option (Option String × String) → Except Fault (Option String)
  | none => .ok none
  | some (none, suffix) => .ok (some suffix)
  | some (some handle, suffix) =>
    match Keyed.get? handle r.handles with
    | some replacement => .ok (some (replacement ++ suffix))
    | none => .error .malformed

/-- Announces an anchor. -/
def announce (r : NodeReader) : Option String → Except Fault NodeReader
  | none => .ok r
  | some a =>
    if (Keyed.get? a r.anchors).isSome then .error .malformed
    else .ok { r with anchors := Keyed.set a none r.anchors }

/-- Reads the anchor and the tag before a node and announces the anchor. Before the tag is
looked up it has to be known that no anchor follows it, if none came before. -/
def opening (r : NodeReader) : Except Fault ((Option String × Option String) × NodeReader) := do
  let (anchor, tag, r) := r.properties
  (if anchor.isSome && tag.isSome then .ok () else r.expectToken)
  let tag ← r.resolveTag tag
  r.expectToken
  return ((anchor, tag), ← r.announce anchor)

/-- Gives an announced anchor its node. -/
def settle (r : NodeReader) (anchor : Option String) (n : Node) : NodeReader :=
  match anchor with
  | none => r
  | some a => { r with anchors := Keyed.set a (some n) r.anchors }

/-! ## §3 Nodes and collections -/

mutual

/-- Reads a node. `block` allows block collections, `indentless` a sequence that
is not indented. -/
def node (room : Nat) (block indentless : Bool) :
    Nat → NodeReader → Except Fault (Node × NodeReader)
  | 0, _ => .error .malformed
  | steps + 1, r =>
    match r.rest with
    | .alias a :: rest =>
      match Keyed.get? a r.anchors with
      | some (some n) => .ok (n, { r with rest })
      | some none => .error .beyond
      | none => .error .malformed
    | _ => do
      (if room = 0 then .error .tooDeep else .ok ())
      let room := room - 1
      let ((anchor, tag), r) ← r.opening
      let number := r.rest.length
      let (n, r) ←
        match r.rest with
        | .scalar text plain :: _ => pure (Node.scalar tag text plain, r.skip)
        | .flowSequenceStart :: _ => do
          let (items, r) ← flowItems room true [] steps r.skip
          pure (.sequence tag items, r)
        | .flowMappingStart :: _ => do
          let (entries, r) ← flowEntries room true [] steps r.skip
          pure (.mapping number tag entries, r)
        | t :: _ =>
          if indentless && t == .blockEntry then do
            let (items, r) ← indentlessItems room [] steps r
            pure (.sequence tag items, r)
          else if block && t == .blockSequenceStart then do
            let (items, r) ← blockItems room [] steps r.skip
            pure (.sequence tag items, r)
          else if block && t == .blockMappingStart then do
            let (entries, r) ← blockEntries room [] steps r.skip
            pure (.mapping number tag entries, r)
          else if anchor.isSome || tag.isSome then pure (.scalar tag "" true, r)
          else throw .malformed
        | [] =>
          if anchor.isSome || tag.isSome then pure (.scalar tag "" true, r) else throw .malformed
      return (n, r.settle anchor n)
termination_by structural steps => steps

/-- Reads a node unless nothing is written before one of some tokens. -/
def nodeOrEmpty (room : Nat) (block indentless : Bool) (stops : List Token) :
    Nat → NodeReader → Except Fault (Node × NodeReader)
  | 0, _ => .error .malformed
  | steps + 1, r => if r.sees stops then .ok (.empty, r) else node room block indentless steps r
termination_by structural steps => steps

/-- Reads the items of a block sequence; those read before come backwards. -/
def blockItems (room : Nat) (items : List Node) :
    Nat → NodeReader → Except Fault (List Node × NodeReader)
  | 0, _ => .error .malformed
  | steps + 1, r =>
    match r.rest with
    | .blockEntry :: _ => do
      let (n, r) ← nodeOrEmpty room true false [.blockEntry, .blockEnd] steps r.skip
      blockItems room (n :: items) steps r
    | .blockEnd :: _ => .ok (items.reverse, r.skip)
    | _ => r.refuse
termination_by structural steps => steps

/-- Reads the items of a block sequence that is not indented. -/
def indentlessItems (room : Nat) (items : List Node) :
    Nat → NodeReader → Except Fault (List Node × NodeReader)
  | 0, _ => .error .malformed
  | steps + 1, r =>
    match r.rest with
    | .blockEntry :: _ => do
      let (n, r) ← nodeOrEmpty room true false [.blockEntry, .key, .value, .blockEnd] steps r.skip
      indentlessItems room (n :: items) steps r
    | _ => .ok (items.reverse, r)
termination_by structural steps => steps

/-- Reads the entries of a block mapping. -/
def blockEntries (room : Nat) (entries : List (Node × Node)) :
    Nat → NodeReader → Except Fault (List (Node × Node) × NodeReader)
  | 0, _ => .error .malformed
  | steps + 1, r =>
    let stops := [.key, .value, .blockEnd]
    match r.rest with
    | .key :: _ => do
      let (k, r) ← nodeOrEmpty room true true stops steps r.skip
      let (v, r) ←
        if r.sees [.value] then nodeOrEmpty room true true stops steps r.skip else pure (.empty, r)
      blockEntries room ((k, v) :: entries) steps r
    | .blockEnd :: _ => .ok (entries.reverse, r.skip)
    | _ => r.refuse
termination_by structural steps => steps

/-- Reads the items of a flow sequence. An item may be a mapping of one entry. -/
def flowItems (room : Nat) (first : Bool) (items : List Node) :
    Nat → NodeReader → Except Fault (List Node × NodeReader)
  | 0, _ => .error .malformed
  | steps + 1, r =>
    if r.sees [.flowSequenceEnd] then .ok (items.reverse, r.skip)
    else if !first && !r.sees [.flowEntry] then r.refuse
    else
      let r := if first then r else r.skip
      let ends := [.flowEntry, .flowSequenceEnd]
      if r.sees [.key] then do
        let number := r.rest.length
        let inner := room - 1
        let (k, r) ← nodeOrEmpty inner false false (.value :: ends) steps r.skip
        let (v, r) ←
          if r.sees [.value] then nodeOrEmpty inner false false ends steps r.skip
          else pure (.empty, r)
        flowItems room false (.mapping number none [(k, v)] :: items) steps r
      else if r.sees [.flowSequenceEnd] then .ok (items.reverse, r.skip)
      else do
        let (n, r) ← node room false false steps r
        flowItems room false (n :: items) steps r
termination_by structural steps => steps

/-- Reads the entries of a flow mapping. -/
def flowEntries (room : Nat) (first : Bool) (entries : List (Node × Node)) :
    Nat → NodeReader → Except Fault (List (Node × Node) × NodeReader)
  | 0, _ => .error .malformed
  | steps + 1, r =>
    if r.sees [.flowMappingEnd] then .ok (entries.reverse, r.skip)
    else if !first && !r.sees [.flowEntry] then r.refuse
    else
      let r := if first then r else r.skip
      let ends := [.flowEntry, .flowMappingEnd]
      if r.sees [.key] then do
        let (k, r) ← nodeOrEmpty room false false (.value :: ends) steps r.skip
        let (v, r) ←
          if r.sees [.value] then nodeOrEmpty room false false ends steps r.skip
          else pure (.empty, r)
        flowEntries room false ((k, v) :: entries) steps r
      else if r.sees [.flowMappingEnd] then .ok (entries.reverse, r.skip)
      else do
        let (k, r) ← node room false false steps r
        flowEntries room false ((k, .empty) :: entries) steps r
termination_by structural steps => steps

end

/-! ## §4 Documents -/

/-- Reads the directives before a document; `versioned` tells whether its version
has been given. -/
def directives (versioned : Bool) (handles : Keyed String String) :
    List Token → Except Fault (Keyed String String × List Token)
  | .directive (.version major) :: rest =>
    if versioned || major != 1 then .error .malformed else directives true handles rest
  | .directive (.tag handle replacement) :: rest =>
    if (Keyed.get? handle handles).isSome then .error .malformed
    else directives versioned (Keyed.set handle replacement handles) rest
  | .directive .unknown :: rest => directives versioned handles rest
  | rest => .ok (handles, rest)

/-- The handles of a document with some of its own. -/
def withUsual (handles : Keyed String String) : Keyed String String :=
  Keyed.update usualHandles handles

/-- Leaves out the marks at the end of a document. -/
def dropEnds : List Token → List Token
  | .documentEnd :: rest => dropEnds rest
  | rest => rest

/-- Whether nothing is written between the start of a document and the next token. -/
def isEmptyBefore : List Token → Bool
  | [] => true
  | .directive _ :: _ => true
  | .documentStart :: _ => true
  | .documentEnd :: _ => true
  | _ => false

/-- What has been read has to be the only document; of another one the directives are
looked at. -/
def finish (read : Node × NodeReader) : Except Fault (Option Node) :=
  match dropEnds read.2.rest with
  | [] => .ok (some read.1)
  | ts => do
    let (_, rest) ← directives false [] ts
    refuse ⟨rest, [], []⟩

/-- Reads the only document of a text. -/
def document (ts : List Token) : Except Fault (Option Node) := do
  let steps := 4 * ts.length + 8
  let first := node Node.maxDepth true false steps
  match ts with
  | [] => return none
  | .directive _ :: _ | .documentStart :: _ =>
    let (handles, rest) ← directives false [] ts
    match rest with
    | .documentStart :: rest =>
      let r : NodeReader := ⟨rest, [], withUsual handles⟩
      finish (← if isEmptyBefore rest then pure (.empty, r) else first r)
    | _ => refuse ⟨rest, [], []⟩
  | _ => finish (← first ⟨ts, [], usualHandles⟩)

end NodeReader

/-- The node of the only document of a text, if there is one. -/
def Node.ofTokens (ts : List Token) : Except Fault (Option Node) := NodeReader.document ts

end TreeSift.Document
