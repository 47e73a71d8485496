/-
  TreeSift.Regex.Matcher — matching with backtracking.

  A matcher gets a place in a text and a continuation. It tries its ways of
  matching from there, each followed by the continuation, and answers with the
  first success of both together. A place holds a position and what the groups
  have matched so far; going back to an earlier place forgets what was matched
  after it.

  A repeat that may stop makes no further round from where its last such round
  began, so that rounds without characters come to an end.

    §1 Places       `Spot`
    §2 Combinators  `seq`, `alt`, `atomic`, looks around
    §3 Repeats      `greedy`, `lazy`, `possessive`
-/

namespace TreeSift.Regex

/-! ## §1 Places -/

/-- A position in a text and, for each group, where it began and ended last. -/
structure Spot where
  position : Nat
  starts : Array (Option Nat)
  ends : Array (Option Nat)

namespace Spot

/-- A position at which no of some groups has matched. -/
def fresh (groups position : Nat) : Spot :=
  ⟨position, Array.replicate groups none, Array.replicate groups none⟩

/-- Where a group begins and ends, if it has matched. A group that has begun
again after its end has not. -/
def extent? (s : Spot) (group : Nat) : Option (Nat × Nat) :=
  match s.starts[group]?, s.ends[group]? with
  | some (some first), some (some last) => if first ≤ last then some (first, last) else none
  | _, _ => none

/-- Begins a group here. -/
def opened (s : Spot) (group : Nat) : Spot :=
  { s with starts := s.starts.setIfInBounds group (some s.position) }

/-- Ends a group here. -/
def closed (s : Spot) (group : Nat) : Spot :=
  { s with ends := s.ends.setIfInBounds group (some s.position) }

/-- The same groups at another position. -/
def goTo (s : Spot) (position : Nat) : Spot := { s with position }

end Spot

/-! ## §2 Combinators -/

/-- A way to match from a place, with what has to match afterwards. -/
abbrev Matcher := Spot → (Spot → Option Spot) → Option Spot

namespace Matcher

/-- Matches nothing at all, successfully. -/
def succeed : Matcher := fun s k => k s

/-- Succeeds where a condition holds. -/
def guard (holds : Spot → Bool) : Matcher := fun s k => if holds s then k s else none

/-- Goes one position further where a condition holds. -/
def step (holds : Spot → Bool) : Matcher := fun s k =>
  if holds s then k (s.goTo (s.position + 1)) else none

/-- One matcher after another. -/
def seq (m n : Matcher) : Matcher := fun s k => m s fun t => n t k

/-- One matcher, or else another. -/
def alt (m n : Matcher) : Matcher := fun s k =>
  match m s k with
  | some t => some t
  | none => n s k

/-- The first way of a matcher only. -/
def atomic (m : Matcher) : Matcher := fun s k =>
  match m s some with
  | some t => k t
  | none => none

/-- Remembers what a matcher has matched. -/
def capture (group : Nat) (m : Matcher) : Matcher := fun s k =>
  m (s.opened group) fun t => k (t.closed group)

/-- Succeeds where a matcher does, without going further; what its groups have
matched is kept. -/
def ahead (m : Matcher) : Matcher := fun s k =>
  match m s some with
  | some t => k (t.goTo s.position)
  | none => none

/-- Succeeds where a matcher fails. -/
def notAhead (m : Matcher) : Matcher := fun s k =>
  match m s some with
  | some _ => none
  | none => k s

/-- Succeeds where a matcher does some characters before. -/
def behind (width : Nat) (m : Matcher) : Matcher := fun s k =>
  if s.position < width then none
  else
    match m (s.goTo (s.position - width)) some with
    | some t => k (t.goTo s.position)
    | none => none

/-- Succeeds where a matcher fails some characters before. -/
def notBehind (width : Nat) (m : Matcher) : Matcher := fun s k =>
  if s.position < width then k s
  else
    match m (s.goTo (s.position - width)) some with
    | some _ => none
    | none => k s

/-- One of two matchers, by whether a group has matched. -/
def condition (group : Nat) (yes no : Matcher) : Matcher := fun s k =>
  if (s.extent? group).isSome then yes s k else no s k

/-! ## §3 Repeats -/

/-- Whether a repeat may begin one more round than `count`. -/
def mayRepeat (most : Option Nat) (count : Nat) : Bool :=
  match most with
  | none => true
  | some m => count < m

/-- Rounds of a matcher, one more rather than one less. `count` rounds have been
made, and the last one that was not needed began at `last`. -/
def greedyFrom (m : Matcher) (least : Nat) (most : Option Nat) :
    Nat → Nat → Option Nat → Matcher
  | 0, _, _ => fun _ _ => none
  | rounds + 1, count, last => fun s k =>
    if count < least then m s fun t => greedyFrom m least most rounds (count + 1) last t k
    else if mayRepeat most count && last != some s.position then
      match m s fun t => greedyFrom m least most rounds (count + 1) (some s.position) t k with
      | some t => some t
      | none => k s
    else k s

/-- Rounds of a matcher, one less rather than one more. -/
def lazyFrom (m : Matcher) (least : Nat) (most : Option Nat) :
    Nat → Nat → Option Nat → Matcher
  | 0, _, _ => fun _ _ => none
  | rounds + 1, count, last => fun s k =>
    if count < least then m s fun t => lazyFrom m least most rounds (count + 1) last t k
    else
      match k s with
      | some t => some t
      | none =>
        if mayRepeat most count && last != some s.position then
          m s fun t => lazyFrom m least most rounds (count + 1) (some s.position) t k
        else none

/-- A number of rounds of a matcher, each in its first way only. -/
def exactly (m : Matcher) : Nat → Spot → Option Spot
  | 0, s => some s
  | n + 1, s =>
    match m s some with
    | none => none
    | some t => exactly m n t

/-- As many further rounds of a matcher as possible, each in its first way. -/
def exhaust (m : Matcher) (most : Option Nat) : Nat → Nat → Option Nat → Spot → Spot
  | 0, _, _, s => s
  | rounds + 1, count, last, s =>
    if mayRepeat most count && last != some s.position then
      match m s some with
      | none => s
      | some t => exhaust m most rounds (count + 1) (some s.position) t
    else s

/-- A number of rounds that no repeat exceeds in a text of a given length. -/
def roundLimit (length least : Nat) : Nat := least + length + 3

/-- A repeat in a text of a given length that tries many rounds first. -/
def greedy (length least : Nat) (most : Option Nat) (m : Matcher) : Matcher :=
  greedyFrom m least most (roundLimit length least) 0 none

/-- A repeat in a text of a given length that tries few rounds first. -/
def lazy (length least : Nat) (most : Option Nat) (m : Matcher) : Matcher :=
  lazyFrom m least most (roundLimit length least) 0 none

/-- A repeat in a text of a given length that makes as many rounds as possible. -/
def possessive (length least : Nat) (most : Option Nat) (m : Matcher) : Matcher := fun s k =>
  match exactly m least s with
  | none => none
  | some t => k (exhaust m most (roundLimit length least) least none t)

end Matcher

end TreeSift.Regex
