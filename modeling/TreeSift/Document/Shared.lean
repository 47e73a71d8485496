/-
  TreeSift.Document.Shared — mappings that stand at several positions.

  An alias does not copy. The mapping that it stands for, and every mapping
  within that, stands at the position of the anchor and at that of the alias;
  so do the mappings under keys that are taken in from another mapping. Such
  positions are tied to one another.

    §1 Positions  `Branch`, `Position`
    §2 Nodes      `Node.mappings`
    §3 Ties       `Ties`, `Document.ties`
-/
import TreeSift.Document.Basic

namespace TreeSift

/-! ## §1 Positions -/

/-- The way from a collection to one of its parts; those of a pair are items, too. -/
inductive Branch where
  | entry (k : Scalar)
  | item (i : Nat)
  deriving DecidableEq, Repr

/-- Where a part of a value stands: the way there from the whole. -/
abbrev Position := List Branch

/-- The positions of a mapping that stands at several, for each such mapping. -/
abbrev Ties := List (List Position)

namespace Document

/-! ## §2 Nodes -/

/-- Whether a position leads through an entry with a key. -/
def isUnder (k : Scalar) : Position → Bool
  | .entry j :: _ => j.sameKey k
  | _ => false

/-- Puts positions in a part of a collection behind the way to that part. -/
def under (b : Branch) (found : List (Position × Nat)) : List (Position × Nat) :=
  found.map fun m => (b :: m.1, m.2)

/-- The positions of all mappings in the values of entries, where a function gives those
in the value of one node. Of several values under one key the last one counts. -/
def placesOfEntries (places : Node → List (Position × Nat)) (entries : List (Node × Node)) :
    List (Position × Nat) :=
  entries.foldl (fun found e =>
    match keyOf e.1 with
    | .error _ => found
    | .ok k => found.filter (fun m => !isUnder k m.1) ++ under (.entry k) (places e.2)) []

/-- The positions of all mappings in a pair. -/
def placesOfPair (places : Node → List (Position × Nat)) : Node → List (Position × Nat)
  | .mapping _ _ [(k, v)] => under (.item 0) (places k) ++ under (.item 1) (places v)
  | _ => []

/-- The positions of all mappings in items. -/
def placesOfItems (places : Node → List (Position × Nat)) (items : List Node) :
    List (Position × Nat) :=
  items.zipIdx.flatMap fun (n, i) => under (.item i) (places n)

/-- The positions of all mappings in the value of a node, each with the number of
its mapping. -/
def Node.mappings : Nat → Node → List (Position × Nat)
  | 0, _ => []
  | steps + 1, n =>
    match n.tag, n with
    | .list, .sequence _ items => placesOfItems (Node.mappings steps) items
    | .pairs, .sequence _ items => placesOfItems (placesOfPair (Node.mappings steps)) items
    | .mapping, .mapping number _ entries =>
      let entries := ((flatten steps entries).toOption).getD []
      ([], number) :: placesOfEntries (Node.mappings steps) entries
    | _, _ => []

/-! ## §3 Ties -/

/-- The positions that belong together, out of the positions of all mappings. -/
def tiesOf (found : List (Position × Nat)) : Ties :=
  ((found.map Prod.snd).eraseDups.map fun number =>
    (found.filter fun m => m.2 == number).map Prod.fst).filter fun tied => 1 < tied.length

/-- The positions in the value of a text that are tied to one another. -/
def ties (text : String) : Ties :=
  match (do
    let ts ← tokens text.toList
    return (ts, ← Node.ofTokens ts) : Except Fault (List Token × Option Node)) with
  | .ok (ts, some n) => tiesOf (n.mappings (stepsFor ts))
  | _ => []

end Document

end TreeSift
