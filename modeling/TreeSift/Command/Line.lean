/-
  TreeSift.Command.Line — a command line sorted onto its switches and places.

  Words are taken from left to right. Plain words fill the places in order, as
  many places at a time as the words before the next switch fill; words for
  which no place is left are extras. Short switches may be run together in one
  word, and the last of them may have its value joined to it.

    §1 Places    `Place.take?`, `fill`
    §2 Switches  `cluster`, `takeSwitch`
    §3 Lines     `Sorted`, `Grammar.sort`
-/
import TreeSift.Command.Word

namespace TreeSift

/-! ## §1 Places -/

/-- Words of a line with what they are. -/
abbrev Words := List (String × Word)

/-- Whether a word is plain or a separator. -/
def isLoose (w : String × Word) : Bool := !w.2.isSwitch

/-- The texts of words. -/
def Words.texts (ws : Words) : List String := ws.map Prod.fst

/-- What a place takes from the front of the words, if they begin with a plain
word, and the words that are left. Unless the place takes all, it drops the
first separator. -/
def Place.take? (p : Place) (ws : Words) : Option (List String × Words) :=
  let (separators, others) := ws.span fun w => w.2.isSeparator
  match others with
  | (text, .plain) :: more =>
    let first : Words := separators ++ [(text, .plain)]
    match p.extent with
    | .one =>
      let (after, rest) := more.span fun w => w.2.isSeparator
      some ((first ++ after).texts.erase Grammar.separatorText, rest)
    | .many =>
      let (after, rest) := more.span isLoose
      some ((first ++ after).texts.erase Grammar.separatorText, rest)
    | .rest => some (ws.texts, [])
  | _ => none

/-- Fills places in order from the front of the words: what each takes, the
places that stay empty and the words that are left. -/
def fill : List Place → Words → List (Place × List String) × List Place × Words
  | [], ws => ([], [], ws)
  | p :: places, ws =>
    match p.take? ws with
    | none => ([], p :: places, ws)
    | some (texts, rest) =>
      let (filled, empty, rest) := fill places rest
      ((p, texts) :: filled, empty, rest)

/-! ## §2 Switches -/

/-- Switches that are given, each with its value; one that takes none has the
empty text. -/
abbrev Given := List (Switch × String)

/-- Switches run together in one word. -/
structure Cluster where
  given : Given
  /-- A switch at the end to which nothing is joined. -/
  last : Option Switch
  extras : List String

/-- The switches of a word: a switch and the text that is joined to it. -/
def cluster (g : Grammar) (s : Switch) (isShort afterEquals : Bool) :
    List Char → Except Exit Cluster
  | [] => if s.takesValue then .ok ⟨[(s, "")], none, []⟩ else .error .usage
  | c :: more =>
    if s.takesValue then .ok ⟨[(s, String.ofList (c :: more))], none, []⟩
    else if !isShort || afterEquals || c = '-' then .error .usage
    else
      match g.switch? (String.ofList ['-', c]) with
      | none => .ok ⟨[(s, "")], none, [String.ofList ('-' :: c :: more)]⟩
      | some next =>
        let before := fun (rest : Cluster) => { rest with given := (s, "") :: rest.given }
        match more with
        | [] => .ok ⟨[(s, "")], some next, []⟩
        | '=' :: text => (cluster g next true true text).map before
        | text => (cluster g next true false text).map before

/-- Whether a name is short: a hyphen that no other hyphen follows. -/
def isShortName (name : String) : Bool := (name.toList.drop 1).head? != some '-'

/-- The switches that a word gives, with a value from the next word if it is
needed, the extras in the word and the words that are left. -/
def takeSwitch (g : Grammar) (s : Switch) (name : String) (joined : Option Joined)
    (rest : Words) : Except Exit (Given × List String × Words) := do
  let c ← match joined with
    | none => .ok ⟨[], some s, []⟩
    | some j => cluster g s (isShortName name) j.afterEquals j.text
  match c.last with
  | none => return (c.given, c.extras, rest)
  | some last =>
    if last.takesValue then
      match rest with
      | (text, .plain) :: rest => return (c.given ++ [(last, text)], c.extras, rest)
      | _ => throw .usage
    else return (c.given ++ [(last, "")], c.extras, rest)

/-- Why switches end the reading of a line, if one of them does. -/
def exit? (given : Given) : Option Exit :=
  given.findSome? fun (s, _) =>
    match s with
    | .help => some .help
    | .version => some .version
    | _ => none

/-! ## §3 Lines -/

/-- What the words of a line have been sorted into. -/
structure Sorted where
  given : Given
  filled : List (Place × List String)
  /-- Words that belong to nothing. -/
  extras : List String

namespace Sorted

/-- The value of a switch, which is that of its last use. -/
def value? (s : Sorted) (switch : Switch) : Option String :=
  (s.given.reverse.find? fun given => given.1 = switch).map Prod.snd

/-- Whether a switch is given. -/
def has (s : Sorted) (switch : Switch) : Bool := (s.value? switch).isSome

/-- The words in a place. -/
def words (s : Sorted) (p : Place) : List String :=
  ((s.filled.find? fun filled => filled.1 = p).map Prod.snd).getD []

end Sorted

namespace Grammar

/-- Sorts words, given the places that are still empty and what has been sorted
so far; the number of steps exceeds the number of words. -/
def sortFrom (g : Grammar) : Nat → List Place → Words → Sorted → Except Exit (List Place × Sorted)
  | 0, _, _, _ => .error .usage
  | steps + 1, places, ws, done =>
    if ws.all isLoose then
      let (filled, empty, rest) := fill places ws
      .ok (empty, { done with
        filled := done.filled ++ filled, extras := done.extras ++ rest.texts })
    else
      match ws with
      | [] => .ok (places, done)
      | (text, .unknown) :: rest =>
        sortFrom g steps places rest { done with extras := done.extras ++ [text] }
      | (_, .switch s name joined) :: rest => do
        let (given, extras, rest) ← takeSwitch g s name joined rest
        match exit? given with
        | some exit => throw exit
        | none =>
          sortFrom g steps places rest { done with
            given := done.given ++ given, extras := done.extras ++ extras }
      | ws =>
        let (filled, empty, rest) := fill places ws
        if filled.isEmpty then
          let (before, after) := ws.span isLoose
          sortFrom g steps places after { done with extras := done.extras ++ Words.texts before }
        else sortFrom g steps empty rest { done with filled := done.filled ++ filled }

/-- Sorts a line. All places have to be filled. -/
def sort (g : Grammar) (line : List String) : Except Exit Sorted := do
  let ws ← g.readAll line
  let (empty, sorted) ← g.sortFrom (ws.length + 1) g.places ws ⟨[], [], []⟩
  if empty.isEmpty then return sorted else throw .usage

end Grammar

end TreeSift
