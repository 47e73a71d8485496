/-
  TreeSift.Settings.Layer — values under dotted keys.

  A key is cut at its dots, and its parts lead from one mapping into the next.
  Writing makes the mappings that are missing on the way; where something else
  than a mapping is in the way, nothing is written. What is written into a mapping
  that stands at several positions of a layer is there at all of them.

    §1 Keys     `keyParts`
    §2 Reading  `Value.at?`
    §3 Writing  `PlacingError`, `Mapping.walk`
    §4 Layers   `Layer`, `Ties.others`, `Layer.write`
-/
import TreeSift.Document.Shared
import TreeSift.Text.Pieces

namespace TreeSift

/-! ## §1 Keys -/

/-- The first part of a key and the parts that follow it. -/
def keyParts (key : String) : String × List String :=
  match (Text.pieces '.' key.toList).map String.ofList with
  | [] => ("", [])
  | first :: rest => (first, rest)

/-- All parts of a key, of which there is at least one. -/
def keyPath (key : String) : List String := (keyParts key).1 :: (keyParts key).2

/-- The position that parts of a key lead to. -/
def partsPosition (parts : List String) : Position := parts.map fun part => .entry (.text part)

/-! ## §2 Reading -/

/-- The value that parts of a key lead to. -/
def Value.at? : Value → List String → Option Value
  | v, [] => some v
  | .mapping entries, part :: rest =>
    match Mapping.get? (.text part) entries with
    | none => none
    | some v => v.at? rest
  | _, _ :: _ => none

/-! ## §3 Writing -/

/-- Why a value cannot be written under a key. -/
inductive PlacingError where
  /-- The part before the last one leads to something else than a mapping. -/
  | parent
  /-- An earlier part leads to something else than a mapping. -/
  | ancestor
  deriving DecidableEq, Repr

/-- The name of the kind of an error. -/
def PlacingError.name : PlacingError → String
  | parent => "TypeError"
  | ancestor => "AttributeError"

/-- Goes into a mapping from part to part and writes a value at the end: whether
that comes to an end, and the mapping by then. A mapping that is missing is put in
before the way goes on through it. -/
def Mapping.walk (v : Value) (first : String) :
    List String → Mapping → Except PlacingError Unit × Mapping
  | [], m => (.ok (), Mapping.set (.text first) v m)
  | next :: rest, m =>
    match Mapping.get? (.text first) m with
    | none =>
      let (result, inner) := Mapping.walk v next rest []
      (result, Mapping.set (.text first) (.mapping inner) m)
    | some (.mapping inner) =>
      let (result, inner) := Mapping.walk v next rest inner
      (result, Mapping.set (.text first) (.mapping inner) m)
    | some _ => (.error (if rest.isEmpty then .parent else .ancestor), m)

/-- Writes a value at a position, with the mappings that are missing on the way; where
something else is in the way, nothing changes. -/
def Value.write (v : Value) : Position → Value → Value
  | [], _ => v
  | .entry k :: rest, .mapping m =>
    .mapping (Mapping.set k (Value.write v rest ((Mapping.get? k m).getD (.mapping []))) m)
  | .item i :: rest, .list items => .list (items.modify i (Value.write v rest))
  | .item i :: rest, .pair a b =>
    if i = 0 then .pair (Value.write v rest a) b else .pair a (Value.write v rest b)
  | _ :: _, w => w

/-! ## §4 Layers -/

/-- The settings that a source gives. -/
structure Layer where
  content : Mapping
  /-- The mappings that stand at several positions of the content. -/
  ties : Ties

/-- A layer without settings. -/
def Layer.empty : Layer := ⟨[], []⟩

/-- The other positions of an entry that lies in a mapping with several, or in a part
of one; of the mappings around the entry the innermost such counts. -/
def Ties.others (ties : Ties) (p : Position) : List Position :=
  let tied := (List.range p.length).reverse.findSome? fun n =>
    (ties.find? (·.contains (p.take n))).map fun tie => tie.map (· ++ p.drop n)
  (tied.getD []).filter fun q => !(q.isPrefixOf p || p.isPrefixOf q)

/-- The ties that are left when what stood at some positions has gone. -/
def Ties.without (ties : Ties) (gone : List Position) : Ties :=
  ties.map fun tie => tie.filter fun q => !gone.any (·.isPrefixOf q)

namespace Layer

/-- All positions of the entry that a key leads to. -/
def names (l : Layer) (key : String) : List Position :=
  partsPosition (keyPath key) :: l.ties.others (partsPosition (keyPath key))

/-- Writes a value under a key: whether that comes to an end, and the layer by then. -/
def write (l : Layer) (key : String) (v : Value) : Except PlacingError Unit × Layer :=
  match Mapping.walk v (keyParts key).1 (keyParts key).2 l.content with
  | (.error e, m) => (.error e, { l with content := m })
  | (.ok (), m) =>
    let written := (l.ties.others (partsPosition (keyPath key))).foldl
      (fun w p => v.write p w) (.mapping m)
    (.ok (), ⟨written.entries, l.ties.without (l.names key)⟩)

end Layer

end TreeSift
