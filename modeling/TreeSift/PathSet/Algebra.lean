/-
  TreeSift.PathSet.Algebra — a set of paths combined with another collection.

  The other collection is a set of paths, a set in which letter case counts, or
  a list. Who is asked for membership decides whether case counts: a difference
  and a comparison ask the subtracted or larger side, an intersection asks the
  set of paths and keeps the spelling of the other side. A list has no notion
  of membership: to be subtracted it is made a set of paths first, and it
  cannot be compared.

    §1 Operands     `Operand`
    §2 Operators    `union`, `intersection`, `difference`, `differenceFrom`, `symmetric`
    §3 From left    `unionFrom`, `intersectionFrom`, `symmetricFrom`
    §4 Comparisons  `le?`, `lt?`, `ge?`, `gt?`, `equals`, `isDisjoint`
    §5 In place     `addAll`, `retainAll`, `removeAll`, `toggleAll`
-/
import TreeSift.PathSet.Basic

namespace TreeSift.PathSet

/-! ## §1 Operands -/

/-- What a set of paths is combined with. -/
inductive Operand where
  /-- Another set of paths. -/
  | paths (s : PathSet)
  /-- A set in which letter case counts. -/
  | exact (members : List String)
  /-- A list. -/
  | sequence (items : List String)

namespace Operand

/-- The values of an operand, one after the other. -/
def toList : Operand → List String
  | paths s => s.toList
  | exact members => members.eraseDups
  | sequence items => items

/-- The number of values of an operand. -/
def size (o : Operand) : Nat := o.toList.length

/-- An operand that can be asked for membership: a list becomes a set of paths. -/
def asSet : Operand → Operand
  | sequence items => paths (ofList items)
  | o => o

/-- Whether a value is in an operand. -/
def contains : Operand → String → Bool
  | paths s, p => s.contains p
  | exact members, p => members.contains p
  | sequence items, p => items.contains p

/-- Whether an operand is a set of some sort. -/
def isSet : Operand → Bool
  | sequence _ => false
  | _ => true

end Operand

/-! ## §2 Operators -/

/-- The members of a set, then those of the operand. -/
def union (s : PathSet) (o : Operand) : PathSet := ofList (s.toList ++ o.toList)

/-- The values of the operand that are in the set, as the operand spells them. -/
def intersection (s : PathSet) (o : Operand) : PathSet := ofList (o.toList.filter s.contains)

/-- The members of a set that the operand does not have. -/
def difference (s : PathSet) (o : Operand) : PathSet :=
  let other := o.asSet
  ofList (s.toList.filter fun p => !other.contains p)

/-- The values of the operand that are not in the set. -/
def differenceFrom (s : PathSet) (o : Operand) : PathSet :=
  ofList (o.asSet.toList.filter fun p => !s.contains p)

/-- What is in one of the two only: the members of the set first. -/
def symmetric (s : PathSet) (o : Operand) : PathSet :=
  let other := o.asSet
  union (s.difference other) (.paths (s.differenceFrom other))

/-! ## §3 From left -/

/-- The union of an operand on the left with a set: a set of paths puts its own
members first, any other operand leaves that to the set. -/
def unionFrom (s : PathSet) : Operand → PathSet
  | .paths p => p.union (.paths s)
  | o => s.union o

/-- The intersection of an operand on the left with a set: of two sets of paths
the right one spells what is common, of any other operand the operand does. -/
def intersectionFrom (s : PathSet) : Operand → PathSet
  | .paths p => p.intersection (.paths s)
  | o => s.intersection o

/-- What is in one of an operand on the left and a set only. -/
def symmetricFrom (s : PathSet) : Operand → PathSet
  | .paths p => p.symmetric (.paths s)
  | o => s.symmetric o

/-! ## §4 Comparisons -/

/-- Whether every member is in an operand. -/
def within (s : PathSet) (o : Operand) : Bool := s.size ≤ o.size && s.toList.all o.contains

/-- Whether every value of an operand is in a set. -/
def covers (s : PathSet) (o : Operand) : Bool := o.size ≤ s.size && o.toList.all s.contains

/-- Makes a comparison with an operand, which has to be a set of some sort. -/
def comparing (o : Operand) (answer : Bool) : Option Bool :=
  if o.isSet then some answer else none

/-- Whether a set is part of an operand. -/
def le? (s : PathSet) (o : Operand) : Option Bool := comparing o (s.within o)

/-- Whether a set is part of an operand and smaller. -/
def lt? (s : PathSet) (o : Operand) : Option Bool := comparing o (s.size < o.size && s.within o)

/-- Whether an operand is part of a set. -/
def ge? (s : PathSet) (o : Operand) : Option Bool := comparing o (s.covers o)

/-- Whether an operand is part of a set and smaller. -/
def gt? (s : PathSet) (o : Operand) : Option Bool := comparing o (s.size > o.size && s.covers o)

/-- Whether a set and an operand have as many members and the first is part of
the second. A list equals no set. -/
def equals (s : PathSet) (o : Operand) : Bool := o.isSet && s.size == o.size && s.within o

/-- Whether no value of an operand is in a set. -/
def isDisjoint (s : PathSet) (o : Operand) : Bool := o.toList.all fun p => !s.contains p

/-! ## §5 In place -/

/-- Adds every value of an operand. -/
def addAll (s : PathSet) (o : Operand) : PathSet := s.insertAll o.toList

/-- Removes the members that an operand does not have. -/
def retainAll (s : PathSet) (o : Operand) : PathSet := s.eraseAll (s.difference o).toList

/-- Removes every value of an operand. -/
def removeAll (s : PathSet) (o : Operand) : PathSet := s.eraseAll o.toList

/-- Removes a path that is there and adds one that is not. -/
def toggle (s : PathSet) (path : String) : PathSet :=
  if s.contains path then s.erase path else s.insert path

/-- Toggles every value of an operand. -/
def toggleAll (s : PathSet) (o : Operand) : PathSet := o.asSet.toList.foldl toggle s

end TreeSift.PathSet
