/-
  TreeSift.PathSet.Change — changes to a set, as its users ask for them.

  A set can be changed path by path or by a whole operand at once. To remove a
  path that is not there, or to take a member out of a set that has none, is
  refused. A set can be its own operand: then it stands for its members, save
  where it would give them one by one while they are removed.
-/
import TreeSift.PathSet.Algebra

namespace TreeSift.PathSet

/-- Why a change is refused or breaks off. -/
inductive Refusal where
  /-- The path to be removed is not there in any spelling. -/
  | absent (path : String)
  /-- There is no member that could be taken out. -/
  | noMember
  /-- A member has gone while the set was giving its members. -/
  | disturbed
  deriving DecidableEq, Repr

namespace Refusal

/-- The name of the kind of a refusal. -/
def name : Refusal → String
  | absent _ => "KeyError"
  | noMember => "KeyError"
  | disturbed => "RuntimeError"

/-- A refusal in words. -/
def message : Refusal → String
  | absent path => Text.quoted path
  | noMember => ""
  | disturbed => "dictionary changed size during iteration"

end Refusal

/-- A change to a set. -/
inductive Change where
  | add (path : String)
  | discard (path : String)
  /-- Removes a path that has to be there. -/
  | remove (path : String)
  /-- Takes out the member that came in first. -/
  | pop
  | clear
  | update (o : Operand)
  | differenceUpdate (o : Operand)
  /-- Removes the set's own members while it gives them. -/
  | differenceUpdateOwn
  | addAll (o : Operand)
  | retainAll (o : Operand)
  | removeAll (o : Operand)
  | toggleAll (o : Operand)

namespace Change

/-- Carries out a change: the path that it gives, if it gives one, or why it is
refused, and the set after it. -/
def carryOut (s : PathSet) : Change → Except Refusal (Option String) × PathSet
  | add path => (.ok none, s.insert path)
  | discard path => (.ok none, s.erase path)
  | remove path =>
    match s.remove? path with
    | some rest => (.ok none, rest)
    | none => (.error (.absent path), s)
  | pop =>
    match s.popFirst? with
    | some (path, rest) => (.ok (some path), rest)
    | none => (.error .noMember, s)
  | clear => (.ok none, .empty)
  | update o => (.ok none, s.insertAll o.toList)
  | differenceUpdate o => (.ok none, s.eraseAll o.toList)
  | differenceUpdateOwn =>
    match s.toList.head? with
    | some first => (.error .disturbed, s.erase first)
    | none => (.ok none, s)
  | addAll o => (.ok none, s.addAll o)
  | retainAll o => (.ok none, s.retainAll o)
  | removeAll o => (.ok none, s.removeAll o)
  | toggleAll o => (.ok none, s.toggleAll o)

end Change

/-- The set that changes lead to, one after the other, from the set of a list. -/
def reached (start : List String) (changes : List Change) : PathSet :=
  changes.foldl (fun s c => (c.carryOut s).2) (ofList start)

end TreeSift.PathSet
