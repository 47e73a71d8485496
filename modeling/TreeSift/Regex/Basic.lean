/-
  TreeSift.Regex.Basic — regular expressions that ignore letter case.

  A regular expression is made from the text of a pattern, or the pattern is
  refused. It is searched for in a text: it is found when it matches from some
  position on, wherever the match ends.

    §1 Regular expressions  `Regex`, `Regex.ofPattern`
    §2 Searching            `Regex.matchFrom?`, `Regex.isFoundIn`
-/
import TreeSift.Regex.Expression

namespace TreeSift

/-! ## §1 Regular expressions -/

/-- A regular expression. -/
structure Regex where
  expression : Regex.Expression
  /-- The number of groups, the whole match included. -/
  groups : Nat
  deriving DecidableEq, Repr

namespace Regex

/-- The flags that hold for a whole pattern in which case is ignored. -/
def patternMode (flags : Flags) : Mode :=
  (Mode.mk true false false false).change flags []

/-- The regular expression that a pattern writes. -/
def ofPattern (text : String) : Except Refusal Regex := do
  let p ← Pattern.read text
  let groups := fun g => ((p.widths[g]?).join).getD (0, 0)
  let e ← Expression.ofNode (p.flags.contains .template) groups (patternMode p.flags) p.node
  return ⟨e, p.widths.length⟩

/-! ## §2 Searching -/

/-- The first match from a position on. -/
def matchFrom? (r : Regex) (text : Array Char) (position : Nat) : Option Spot :=
  r.expression.matcher text (Spot.fresh r.groups position) some

/-- Whether a regular expression matches from some position of a text on. -/
def isFoundIn (r : Regex) (text : String) : Bool :=
  let chars := text.toList.toArray
  (List.range (chars.size + 1)).any fun i => (r.matchFrom? chars i).isSome

end Regex

end TreeSift
