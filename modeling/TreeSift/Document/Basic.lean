/-
  TreeSift.Document.Basic — from a text to its value.

  A structured text is cut into tokens, the tokens are put together to a node,
  and the node stands for a value. Keys have to be scalars. A key for taking in
  other mappings puts their entries before the entries of the mapping it is in.

  Of several faults in the values of nodes the one that counts is the first one
  on the highest level: a collection is filled after everything on its own level
  has been begun.

    §1 Nodes     `Node.tag`, `Node.text?`, `Node.begin`
    §2 Mappings  `flatten`
    §3 Faults    `Found`, `all`
    §4 Values    `Node.value`
    §5 Texts     `Document.read`
-/
import TreeSift.Document.Lexer
import TreeSift.Document.Node
import TreeSift.Document.Scalar

namespace TreeSift.Document

/-! ## §1 Nodes -/

/-- What a node is said to be, or looks like. -/
def Node.tag : Node → Tag
  | .scalar none text plain => if plain then .ofPlain text else .text
  | .scalar (some t) text _ => if t = "!" then .ofPlain text else .named t
  | .sequence t _ => (t.filter (· ≠ "!")).elim .list .named
  | .mapping _ t _ => (t.filter (· ≠ "!")).elim .mapping .named

mutual

/-- The text of a node; that of a mapping is under a key for it. -/
def Node.text? : Node → Option String
  | .scalar _ text _ => some text
  | .sequence _ _ => none
  | .mapping _ _ entries => textOfEntries entries

/-- The text under the first key for a value of its own. -/
def textOfEntries : List (Node × Node) → Option String
  | [] => none
  | (k, v) :: rest => if k.tag = .default then v.text? else textOfEntries rest

end

/-- Whether a node is a mapping. -/
def Node.isMapping : Node → Bool
  | .mapping _ _ _ => true
  | _ => false

/-- The scalar that a node stands for; there is none for a collection, which is filled
later. -/
def Node.begin (n : Node) : Except Fault (Option Scalar) :=
  match n.tag with
  | .list | .mapping | .set | .pairs => .ok none
  | tag =>
    match n.text? with
    | none => .error .malformed
    | some text =>
      if tag = .moment && n.isMapping then .error (.badScalar .mappingForDate)
      else (scalarOf tag text).map some

/-! ## §2 Mappings -/

/-- The entries of a mapping with those that it takes in before them; of several
mappings taken in together the first one comes last, so that it prevails. -/
def flatten : Nat → List (Node × Node) → Except Fault (List (Node × Node))
  | 0, _ => .error .malformed
  | steps + 1, entries => do
    let taken ← (entries.filter fun e => e.1.tag == .merge).mapM fun e =>
      match e.2 with
      | .mapping _ _ inner => flatten steps inner
      | .sequence _ items => do
        let lists ← items.mapM fun
          | .mapping _ _ inner => flatten steps inner
          | _ => .error Fault.malformed
        return lists.reverse.flatten
      | .scalar _ _ _ => .error .malformed
    return taken.flatten ++ entries.filter fun e => e.1.tag != .merge

/-- The key that a node stands for. -/
def keyOf (n : Node) : Except Fault Scalar :=
  if n.tag = .default then
    match n.text? with
    | some text => .ok (.text text)
    | none => .error .malformed
  else do
    match ← n.begin with
    | some s => return s
    | none => throw .malformed

/-! ## §3 Faults -/

/-- A fault with the number of levels that it lies below a node. -/
structure Found where
  level : Nat
  fault : Fault
  deriving DecidableEq, Repr

namespace Found

variable {α β γ : Type}

/-- A result whose fault lies at the node itself. -/
def here (r : Except Fault α) : Except Found α := r.mapError (⟨0, ·⟩)

/-- A result on the level below a node. -/
def below (r : Except Found α) : Except Found α :=
  r.mapError fun f => { f with level := f.level + 1 }

/-- The results of two parts, or the fault that counts. -/
def both (f : α → β → γ) : Except Found α → Except Found β → Except Found γ
  | .ok a, .ok b => .ok (f a b)
  | .ok _, .error e => .error e
  | .error e, .ok _ => .error e
  | .error e, .error e' => .error (if e'.level < e.level then e' else e)

/-- The results of all parts, or the fault that counts. -/
def all : List (Except Found α) → Except Found (List α)
  | [] => .ok []
  | r :: rest => both List.cons r (all rest)

end Found

/-! ## §4 Values -/

/-- The writings of entries, whose values are given by a function. -/
def writingsOf (value : Node → Except Found Value) (entries : List (Node × Node)) :
    Except Found (List (Scalar × Value)) :=
  Found.all (entries.map fun e => Found.both Prod.mk (Found.here (keyOf e.1)) (value e.2))

/-- The pair that a mapping of one entry stands for in a list of pairs. -/
def pairOf (value : Node → Except Found Value) : Node → Except Found Value
  | .mapping _ _ [(k, v)] => Found.both .pair (value k) (value v)
  | _ => .error ⟨0, .malformed⟩

/-- What a collection holds, whose parts have the values that a function gives. -/
def Node.fill (value : Node → Except Found Value) (steps : Nat) (n : Node) :
    Except Found Value :=
  match n.tag, n with
  | .list, .sequence _ items => (Found.all (items.map value)).map .list
  | .pairs, .sequence _ items => (Found.all (items.map (pairOf value))).map .list
  | .mapping, .mapping _ _ entries => do
    let writings ← writingsOf value (← Found.here (flatten steps entries))
    return .mapping (Mapping.ofWritings writings)
  | .set, .mapping _ _ entries => do
    let writings ← writingsOf value (← Found.here (flatten steps entries))
    return .set ((Mapping.ofWritings writings).map Prod.fst)
  | _, _ => .error ⟨0, .malformed⟩

/-- The value that a node stands for; the number of steps exceeds its depth. -/
def Node.value : Nat → Node → Except Found Value
  | 0, _ => .error ⟨0, .malformed⟩
  | steps + 1, n =>
    match n.begin with
    | .error f => .error ⟨0, f⟩
    | .ok (some s) => .ok (.scalar s)
    | .ok none => Found.below (n.fill (Node.value steps) steps)

/-! ## §5 Texts -/

/-- The number of steps for the node of tokens. -/
def stepsFor (ts : List Token) : Nat := ts.length + 8

/-- The value of the only document that tokens make; without one it is nothing. -/
def valueOf (ts : List Token) : Except Fault Value := do
  match ← Node.ofTokens ts with
  | none => return .null
  | some n => (n.value (stepsFor ts)).mapError Found.fault

/-- The value that a text holds. -/
def read (text : String) : Except Fault Value :=
  (valueOf (tokensInTurn text.toList)).mapError Fault.whole

end TreeSift.Document
