/-
  TreeSift.Proofs.Glob.Expression — globs as regular expressions.

  A pattern for one name can be written as a regular expression: a star as any
  characters of any number, several stars in a row as one, a question mark as any
  character, and all else as itself, escaped where it means something else to a
  reader. The text is read without refusal, and matched with backtracking from the
  start of a name to its end it decides as the glob does: `covers_iff_parts`.

    §1 Texts     `regexText`
    §2 Reading   `read_regexText`
    §3 Matching  `expression`, `matcher_iff_cuts`
    §4 Globs     `covers_iff_parts`
-/
import Mathlib.Data.List.Basic
import TreeSift.Proofs.Glob.Cutting
import TreeSift.Proofs.Regex.SideBySide
import TreeSift.Proofs.Text.Case
import TreeSift.Regex.Basic

namespace TreeSift

namespace Glob

/-! ## §1 Texts -/

/-- The characters that mean something else than themselves to a reader of regular
expressions, or may do so. -/
def escapedLetters : List Char :=
  ['(', ')', '[', ']', '\x7b', '\x7d', '?', '*', '+', '-', '|', '^', '$', '\\', '.', '&', '~', '#',
    ' ', '\t', '\n', '\r', '\x0b', '\x0c']

/-- A character of a pattern in a regular expression. -/
def regexPart (c : Char) : List Char :=
  if c = '*' then ['.', '*']
  else if c = '?' then ['.']
  else if c ∈ escapedLetters then ['\\', c]
  else [c]

theorem length_regexPart_pos (c : Char) : 0 < (regexPart c).length := by
  unfold regexPart
  split_ifs <;> simp

theorem length_le_flatMap_regexPart (pattern : List Char) :
    pattern.length ≤ (pattern.flatMap regexPart).length := by
  induction pattern with
  | nil => exact Nat.le_refl _
  | cons c pattern ih =>
    have := length_regexPart_pos c
    rw [List.flatMap_cons, List.length_append, List.length_cons]
    omega

/-- A pattern in which one star stands for several in a row. -/
def mergeStars : List Char → List Char
  | '*' :: '*' :: rest => mergeStars ('*' :: rest)
  | c :: rest => c :: mergeStars rest
  | [] => []

theorem cuts_mergeStars {pattern name : List Char} :
    Cuts (mergeStars pattern) name ↔ Cuts pattern name := by
  fun_induction mergeStars pattern generalizing name with
  | case1 rest ih => exact ih.trans cuts_star_star.symm
  | case2 c rest _ ih =>
    rw [cuts_cons, cuts_cons]
    simp only [ih]
  | case3 => exact Iff.rfl

/-- The characters of a regular expression for a whole name. -/
def regexChars (pattern : List Char) : List Char := pattern.flatMap regexPart ++ ['\\', 'Z']

/-- A pattern for one name as a regular expression. -/
def regexText (segment : String) : String := String.ofList (regexChars (mergeStars segment.toList))

/-- The node that a character of a pattern is read as. -/
def node (c : Char) : Regex.Node :=
  if c = '*' then .repeated .greedy 0 none (.atom .any)
  else if c = '?' then .atom .any
  else .atom (.code c.toNat)

end Glob

/-! ## §2 Reading -/

namespace Regex.Reader

open Fallible

variable {s : ReaderState} {c : Cursor} {r : List Node × ReaderState}

theorem take_ahead (ahead : s.cursor.advance = .ok c) :
    take s = .ok (s.cursor.next, { s with cursor := c }) :=
  bind_run.2 ⟨s, s, rfl, bind_run.2 ⟨c, s, lift_run.2 ⟨ahead, rfl⟩, rfl⟩⟩

theorem peek_next {t : Option Token} (next : s.cursor.next = t) : peek s = .ok (t, s) :=
  congrArg (fun t => Except.ok (t, s)) next

theorem accept_refuses {d : Char} (other : s.cursor.next ≠ some (.char d)) :
    accept d s = .ok (false, s) := by
  refine bind_run.2 ⟨_, s, peek_next rfl, ?_⟩
  rw [if_neg (by simpa using other)]
  rfl

section

variable (leading : Bool) (nodes : List Node) (steps : Nat)

theorem readSequence_finish (next : s.cursor.next = none) :
    readSequence false leading nodes (steps + 1) s = .ok (unpack nodes, s) := by
  rw [readSequence]
  exact bind_run.2 ⟨_, s, rfl, bind_run.2 ⟨none, s, peek_next next, rfl⟩⟩

theorem readSequence_dot (next : s.cursor.next = some (.char '.'))
    (ahead : s.cursor.advance = .ok c)
    (rest : readSequence false leading (.atom .any :: nodes) steps { s with cursor := c } = .ok r) :
    readSequence false leading nodes (steps + 1) s = .ok r := by
  rw [readSequence]
  refine bind_run.2 ⟨_, s, rfl, bind_run.2 ⟨_, s, peek_next next, ?_⟩⟩
  exact bind_run.2 ⟨_, _, take_ahead ahead, rest⟩

/-- A star after any character is a repeat of it, if nothing tells how to choose. -/
theorem readSequence_star (next : s.cursor.next = some (.char '*'))
    (ahead : s.cursor.advance = .ok c) (few : c.next ≠ some (.char '?'))
    (all : c.next ≠ some (.char '+'))
    (rest : readSequence false leading (.repeated .greedy 0 none (.atom .any) :: nodes) steps
      { s with cursor := c } = .ok r) :
    readSequence false leading (.atom .any :: nodes) (steps + 1) s = .ok r := by
  rw [readSequence]
  refine bind_run.2 ⟨_, s, rfl, bind_run.2 ⟨_, s, peek_next next, ?_⟩⟩
  refine bind_run.2 ⟨_, _, take_ahead ahead, bind_run.2 ⟨_, { s with cursor := c }, ?_, rest⟩⟩
  refine bind_run.2 ⟨some (0, none), { s with cursor := c }, rfl, ?_⟩
  refine bind_run.2 ⟨.greedy, { s with cursor := c }, ?_, rfl⟩
  exact bind_run.2 ⟨_, _, accept_refuses few, bind_run.2 ⟨_, _, accept_refuses all, rfl⟩⟩

theorem readSequence_escape {d : Char} {a : Atom} (next : s.cursor.next = some (.escape d))
    (ahead : s.cursor.advance = .ok c)
    (escape : readEscape d { s with cursor := c } = .ok (a, { s with cursor := c }))
    (rest : readSequence false leading (.atom a :: nodes) steps { s with cursor := c } = .ok r) :
    readSequence false leading nodes (steps + 1) s = .ok r := by
  rw [readSequence]
  refine bind_run.2 ⟨_, s, rfl, bind_run.2 ⟨_, s, peek_next next, ?_⟩⟩
  exact bind_run.2 ⟨_, _, take_ahead ahead, bind_run.2 ⟨_, _, escape, rest⟩⟩

theorem readSequence_letter {d : Char} (plain : d ∉ Glob.escapedLetters)
    (next : s.cursor.next = some (.char d)) (ahead : s.cursor.advance = .ok c)
    (rest : readSequence false leading (.atom (.code d.toNat) :: nodes) steps
      { s with cursor := c } = .ok r) :
    readSequence false leading nodes (steps + 1) s = .ok r := by
  have other : ∀ x ∈ Glob.escapedLetters, d ≠ x := fun x inside eq => plain (eq ▸ inside)
  have closes : (decide (d = '|') || decide (d = ')')) = false := by
    simp [other '|' (by decide), other ')' (by decide)]
  have repeats : (decide (d = '*') || decide (d = '+') || decide (d = '?') ||
      decide (d = '\x7b')) = false := by
    simp [other '*' (by decide), other '+' (by decide), other '?' (by decide),
      other '\x7b' (by decide)]
  rw [readSequence]
  refine bind_run.2 ⟨_, s, rfl, bind_run.2 ⟨_, s, peek_next next, ?_⟩⟩
  simp only [closes, repeats, Bool.false_and, Bool.false_eq_true, if_false]
  refine bind_run.2 ⟨_, _, take_ahead ahead, ?_⟩
  split
  · exact absurd rfl (other '[' (by decide))
  · exact absurd rfl (other '(' (by decide))
  · exact absurd rfl (other '.' (by decide))
  · exact absurd rfl (other '^' (by decide))
  · exact absurd rfl (other '$' (by decide))
  · exact rest

/-- All that is escaped in the text of a glob is read as itself. -/
theorem readEscape_letter {d : Char} (inside : d ∈ Glob.escapedLetters) :
    readEscape d s = .ok (.code d.toNat, s) := by
  revert d
  simp only [Glob.escapedLetters, List.forall_mem_cons, List.not_mem_nil, false_imp_iff,
    implies_true, and_true]
  and_intros <;> rfl

end

/-- After the text of one character of a pattern comes that of the next, or the end;
neither tells a repeat how to choose. -/
theorem load_regexChars (pattern : List Char) (i : Nat) :
    ∃ c, Cursor.load (Glob.regexChars pattern) i = .ok c ∧ c.next ≠ some (.char '?') ∧
      c.next ≠ some (.char '+') := by
  cases pattern with
  | nil => exact ⟨_, rfl, by simp, by simp⟩
  | cons d pattern =>
    unfold Glob.regexChars
    rw [List.flatMap_cons, List.append_assoc, Glob.regexPart]
    split_ifs with star mark escaped
    · exact ⟨_, rfl, by simp, by simp⟩
    · exact ⟨_, rfl, by simp, by simp⟩
    · exact ⟨_, rfl, by simp, by simp⟩
    · have other : ∀ x ∈ Glob.escapedLetters, some (Token.char d) ≠ some (.char x) := by
        rintro x inside ⟨⟩
        exact escaped inside
      have backslash : d ≠ '\\' := fun eq => escaped (eq ▸ by decide)
      exact ⟨_, Cursor.load_char backslash _ i, other '?' (by decide), other '+' (by decide)⟩

/-- Of a glob's text, what one character has written is read as the node of it. -/
theorem readSequence_regexPart (leading : Bool) (nodes : List Node) (steps : Nat) {d : Char}
    {pattern : List Char} {i : Nat}
    (here : Cursor.load (Glob.regexPart d ++ Glob.regexChars pattern) i = .ok s.cursor) :
    ∃ c j k, Cursor.load (Glob.regexChars pattern) j = .ok c ∧ steps ≤ k ∧
      ∀ r, readSequence false leading (Glob.node d :: nodes) k { s with cursor := c } = .ok r →
        readSequence false leading nodes (steps + 2) s = .ok r := by
  unfold Glob.regexPart at here
  unfold Glob.node
  split_ifs at here ⊢ with star mark escaped
  · have cursor := Except.ok.inj here
    obtain ⟨c, loaded, few, all⟩ := load_regexChars pattern (i + 2)
    refine ⟨c, i + 2, steps, loaded, Nat.le_refl _, fun r rest => ?_⟩
    refine readSequence_dot leading nodes (steps + 1) (c := ⟨some (.char '*'), _, i + 2⟩)
      (by rw [← cursor]) (by rw [← cursor]; rfl) ?_
    exact readSequence_star leading nodes steps rfl loaded few all rest
  · have cursor := Except.ok.inj here
    obtain ⟨c, loaded, -⟩ := load_regexChars pattern (i + 1)
    refine ⟨c, i + 1, steps + 1, loaded, Nat.le_succ _, fun r rest => ?_⟩
    exact readSequence_dot leading nodes (steps + 1) (by rw [← cursor])
      (by rw [← cursor]; exact loaded) rest
  · have cursor := Except.ok.inj here
    obtain ⟨c, loaded, -⟩ := load_regexChars pattern (i + 2)
    refine ⟨c, i + 2, steps + 1, loaded, Nat.le_succ _, fun r rest => ?_⟩
    exact readSequence_escape leading nodes (steps + 1) (d := d) (by rw [← cursor])
      (by rw [← cursor]; exact loaded) (readEscape_letter escaped) rest
  · have backslash : d ≠ '\\' := fun eq => escaped (eq ▸ by decide)
    have cursor := Except.ok.inj ((Cursor.load_char backslash _ i).symm.trans here)
    obtain ⟨c, loaded, -⟩ := load_regexChars pattern (i + 1)
    refine ⟨c, i + 1, steps + 1, loaded, Nat.le_succ _, fun r rest => ?_⟩
    exact readSequence_letter leading nodes (steps + 1) escaped (by rw [← cursor])
      (by rw [← cursor]; exact loaded) rest

/-- The text of a glob is read character by character, and the end of it as the end
of the name. -/
theorem readSequence_regexChars (leading : Bool) (nodes : List Node) (steps : Nat)
    {pattern : List Char} {i : Nat} (here : Cursor.load (Glob.regexChars pattern) i = .ok s.cursor)
    (enough : 2 * pattern.length + 2 ≤ steps) :
    ∃ c, c.next = none ∧ readSequence false leading nodes steps s =
      .ok (unpack (.atom (.anchor .textEnd) :: ((pattern.map Glob.node).reverse ++ nodes)),
        { s with cursor := c }) := by
  induction pattern generalizing s nodes i steps with
  | nil =>
    obtain ⟨steps, rfl⟩ := Nat.exists_eq_add_of_le' enough
    have cursor := Except.ok.inj here
    refine ⟨⟨none, [], i + 2⟩, rfl, ?_⟩
    refine readSequence_escape leading nodes (steps + 1) (d := 'Z') (by rw [← cursor])
      (by rw [← cursor]; rfl) rfl ?_
    exact readSequence_finish leading _ steps rfl
  | cons d pattern ih =>
    obtain ⟨fewer, rfl⟩ : ∃ k, steps = k + 2 := ⟨steps - 2, by omega⟩
    rw [List.length_cons] at enough
    rw [Glob.regexChars, List.flatMap_cons, List.append_assoc] at here
    obtain ⟨c, j, k, loaded, le, run⟩ := readSequence_regexPart leading nodes fewer here
    obtain ⟨last, done, rest⟩ := ih (s := { s with cursor := c }) (Glob.node d :: nodes) k loaded
      (by omega)
    refine ⟨last, done, ?_⟩
    rw [run _ rest, List.map_cons, List.reverse_cons, List.append_assoc, List.singleton_append]

end Regex.Reader

namespace Regex

open Fallible Reader

theorem length_le_room {text : List Char} {i : Nat} {c : Cursor}
    (loaded : Cursor.load text i = .ok c) : text.length ≤ c.room := by
  unfold Cursor.load at loaded
  unfold Cursor.room
  split at loaded <;> cases loaded <;> simp only [List.length_cons, List.length_nil] <;> omega

/-- A sequence without groups is what has been read, in its order. -/
theorem unpack_eq_reverse {nodes : List Node}
    (groupless : ∀ n ∈ nodes, ∀ body, n ≠ .group none [] [] body) :
    unpack nodes = nodes.reverse := by
  refine Eq.trans (List.flatMap_congr fun n inside => ?_) (List.flatMap_singleton' nodes.reverse)
  split
  · exact absurd rfl (groupless _ (List.mem_reverse.1 inside) _)
  · rfl

theorem node_ne_group (d : Char) (body : Node) : Glob.node d ≠ .group none [] [] body := by
  unfold Glob.node
  split_ifs <;> simp

/-- **The text of a glob is read without refusal**, as what its characters stand for
and the end of the name. -/
theorem read_regexChars (pattern : List Char) :
    Pattern.read (String.ofList (Glob.regexChars pattern)) =
      .ok ⟨Node.ofList (pattern.map Glob.node ++ [.atom (.anchor .textEnd)]), [], [none]⟩ := by
  obtain ⟨c, loaded, -⟩ := load_regexChars pattern 0
  have written := Glob.length_le_flatMap_regexPart pattern
  have room := length_le_room loaded
  rw [Glob.regexChars, List.length_append, List.length_cons, List.length_singleton] at room
  let start : ReaderState := ⟨c, [], [], [none], none, []⟩
  obtain ⟨last, done, run⟩ := readSequence_regexChars (s := start) true [] (3 * c.room + 2) loaded
    (by omega)
  have nodes : unpack (.atom (.anchor .textEnd) :: ((pattern.map Glob.node).reverse ++ [])) =
      pattern.map Glob.node ++ [.atom (.anchor .textEnd)] := by
    rw [List.append_nil, unpack_eq_reverse, List.reverse_cons, List.reverse_reverse]
    rintro n inside body rfl
    rcases List.mem_cons.1 inside with atom | inside
    · exact Node.noConfusion atom
    · obtain ⟨d, -, group⟩ := List.mem_map.1 (List.mem_reverse.1 inside)
      exact node_ne_group d body group
  rw [nodes] at run
  have alternatives : readAlternatives false true [] (3 * c.room + 3) start =
      .ok (pattern.map Glob.node ++ [.atom (.anchor .textEnd)], { start with cursor := last }) := by
    rw [readAlternatives]
    refine bind_run.2 ⟨_, _, run, bind_run.2 ⟨false, _, accept_refuses ?_, rfl⟩⟩
    rw [done]
    simp
  have whole : readPattern start =
      .ok (Node.ofList (pattern.map Glob.node ++ [.atom (.anchor .textEnd)]),
        { start with cursor := last }) := by
    refine bind_run.2 ⟨c.room, start, rfl, bind_run.2 ⟨_, _, alternatives, ?_⟩⟩
    refine bind_run.2 ⟨_, _, rfl, ?_⟩
    exact bind_run.2 ⟨none, _, peek_next done, rfl⟩
  rw [Pattern.read, String.toList_ofList, loaded, ok_bind]
  exact bind_eq_ok.2 ⟨_, whole, rfl⟩

/-! ## §3 Matching -/

/-- The expression that a character of a pattern stands for in a name. -/
def ofGlobChar (c : Char) : Expression :=
  if c = '*' then .repeated .greedy 0 none (.char .any)
  else if c = '?' then .char .any
  else .char (.code .full false c.toNat)

/-- The expression that a pattern stands for in a name. -/
def ofGlobChars : List Char → Expression
  | [] => .place .textEnd
  | c :: rest => .seq (ofGlobChar c) (ofGlobChars rest)

theorem ofNode_node (groups : Nat → Nat × Nat) (c : Char) :
    Expression.ofNode false groups (patternMode [.dotAll]) (Glob.node c) = .ok (ofGlobChar c) := by
  unfold Glob.node ofGlobChar
  split_ifs <;> rfl

theorem ofNode_nodes (groups : Nat → Nat × Nat) (pattern : List Char) :
    Expression.ofNode false groups (patternMode [.dotAll])
        (Node.ofList (pattern.map Glob.node ++ [.atom (.anchor .textEnd)])) =
      .ok (ofGlobChars pattern) := by
  induction pattern with
  | nil => rfl
  | cons c pattern ih =>
    have seq : Node.ofList ((c :: pattern).map Glob.node ++ [.atom (.anchor .textEnd)]) =
        .seq (Glob.node c) (Node.ofList (pattern.map Glob.node ++ [.atom (.anchor .textEnd)])) := by
      rw [List.map_cons, List.cons_append]
      cases pattern <;> rfl
    rw [seq, Expression.ofNode, ofNode_node, ih]
    rfl

section

variable {text : Array Char}

theorem drop_eq_cons {i : Nat} {d : Char} {rest : List Char}
    (here : text.toList.drop i = d :: rest) :
    i < text.size ∧ text.toList.drop (i + 1) = rest := by
  constructor
  · refine Nat.lt_of_not_le fun beyond => ?_
    rw [← Array.length_toList, ← List.drop_eq_nil_iff, here] at beyond
    exact List.cons_ne_nil _ _ beyond
  · rw [← List.tail_drop, here, List.tail_cons]

/-- A test goes on where it admits the next character. -/
theorem matcher_char {t : CharTest} {s : Spot} {k : Spot → Option Spot} :
    ((Expression.char t).matcher text s k).isSome ↔
      ∃ d rest, text.toList.drop s.position = d :: rest ∧ t.admits d = true ∧
        (k (s.goTo (s.position + 1))).isSome := by
  have head : text[s.position]? = (text.toList.drop s.position).head? := by
    rw [List.head?_drop, Array.getElem?_toList]
  rw [Expression.matcher, Matcher.step, head]
  cases text.toList.drop s.position with
  | nil => simp
  | cons d rest =>
    change (if t.admits d = true then k (s.goTo (s.position + 1)) else none).isSome ↔ _
    split_ifs with admits
    · refine ⟨fun found => ⟨d, rest, rfl, admits, found⟩, ?_⟩
      rintro ⟨_, _, _, _, found⟩
      exact found
    · refine ⟨fun none => absurd none (by simp), ?_⟩
      rintro ⟨e, _, eq, admitted, -⟩
      exact absurd ((List.cons.inj eq).1 ▸ admitted) admits

/-- A repeat without bounds makes one more round, or else stops. -/
theorem greedyFrom_succ (m : Matcher) (rounds count : Nat) {last : Option Nat} {s : Spot}
    {k : Spot → Option Spot} (moved : last ≠ some s.position) :
    m.greedyFrom 0 none (rounds + 1) count last s k =
      (m s fun t => m.greedyFrom 0 none rounds (count + 1) (some s.position) t k).or (k s) := by
  have again : (Matcher.mayRepeat none count && last != some s.position) = true := by
    rw [Matcher.mayRepeat, Bool.true_and, bne_iff_ne]
    exact moved
  rw [Matcher.greedyFrom]
  simp only
  rw [if_neg (Nat.not_lt_zero _), if_pos again]
  cases m s fun t => m.greedyFrom 0 none rounds (count + 1) (some s.position) t k <;> rfl

/-- Any characters of any number are taken in every way that the rest may need. -/
theorem greedyFrom_any {rounds count : Nat} {last : Option Nat} {s : Spot}
    {k : Spot → Option Spot} (inside : s.position ≤ text.size)
    (enough : text.size < s.position + rounds) (fresh : ∀ p, last = some p → p < s.position) :
    (Matcher.greedyFrom ((Expression.char .any).matcher text) 0 none rounds count last s k).isSome ↔
      ∃ n, s.position + n ≤ text.size ∧ (k (s.goTo (s.position + n))).isSome := by
  induction rounds generalizing count last s with
  | zero => omega
  | succ rounds ih =>
    have moved : last ≠ some s.position := fun eq => Nat.lt_irrefl _ (fresh _ eq)
    rw [greedyFrom_succ _ _ _ moved, Option.isSome_or, Bool.or_eq_true, matcher_char]
    constructor
    · rintro (⟨d, rest, here, -, found⟩ | stops)
      · have more := (drop_eq_cons here).1
        obtain ⟨n, within, found⟩ := (ih (s := s.goTo (s.position + 1)) more
          (by change _ < s.position + 1 + rounds; omega)
          (by rintro p ⟨⟩; exact Nat.lt_succ_self _)).1 found
        refine ⟨n + 1, by change s.position + 1 + n ≤ _ at within; omega, ?_⟩
        rw [Nat.add_comm n 1, ← Nat.add_assoc]
        exact found
      · exact ⟨0, inside, stops⟩
    · rintro ⟨n, within, found⟩
      cases n with
      | zero => exact .inr found
      | succ n =>
        have more : s.position < text.toList.length := by
          rw [Array.length_toList]
          omega
        refine .inl ⟨_, _, List.drop_eq_getElem_cons more, rfl, ?_⟩
        refine (ih (s := s.goTo (s.position + 1)) (by rwa [Array.length_toList] at more)
          (by change _ < s.position + 1 + rounds; omega)
          (by rintro p ⟨⟩; exact Nat.lt_succ_self _)).2 ⟨n, ?_, ?_⟩
        · change s.position + 1 + n ≤ _
          omega
        · change (k (s.goTo (s.position + 1 + n))).isSome
          rwa [Nat.add_assoc, Nat.add_comm 1]

theorem admits_iff_takes {c d : Char} (star : c ≠ '*') (mark : c ≠ '?') :
    (CharTest.code .full false c.toNat).admits d = true ↔ Glob.Takes c [d] := by
  rw [CharTest.admits, CaseRule.same, Bool.bne_false, beq_iff_eq, ← Text.alike_iff]
  constructor
  · exact .letter star mark
  · intro taken
    cases taken with
    | star => exact absurd rfl star
    | mark => exact absurd rfl mark
    | @letter _ _ _ _ alike => exact alike

/-- A character of a pattern is matched by the parts of the name that it may take. -/
theorem matcher_ofGlobChar {c : Char} {s : Spot} {k : Spot → Option Spot}
    (inside : s.position ≤ text.size) :
    ((ofGlobChar c).matcher text s k).isSome ↔
      ∃ part rest, part ++ rest = text.toList.drop s.position ∧ Glob.Takes c part ∧
        (k (s.goTo (s.position + part.length))).isSome := by
  unfold ofGlobChar
  split_ifs with star mark
  · subst star
    have fresh : ∀ p, (none : Option Nat) = some p → p < s.position := by simp
    refine (greedyFrom_any inside (by unfold Matcher.roundLimit; omega) fresh).trans ?_
    constructor
    · rintro ⟨n, within, found⟩
      refine ⟨(text.toList.drop s.position).take n, (text.toList.drop s.position).drop n,
        List.take_append_drop _ _, Glob.takes_star, ?_⟩
      rwa [List.length_take, List.length_drop, Array.length_toList, Nat.min_eq_left (by omega)]
    · rintro ⟨part, rest, here, -, found⟩
      refine ⟨part.length, ?_, found⟩
      have length := congrArg List.length here
      rw [List.length_append, List.length_drop, @Array.length_toList _ text] at length
      omega
  · subst mark
    rw [matcher_char]
    constructor
    · rintro ⟨d, rest, here, -, found⟩
      exact ⟨[d], rest, here.symm, .mark d, found⟩
    · rintro ⟨part, rest, here, taken, found⟩
      obtain ⟨d, rfl⟩ := taken.eq_singleton star
      exact ⟨d, rest, here.symm, rfl, found⟩
  · rw [matcher_char]
    constructor
    · rintro ⟨d, rest, here, admits, found⟩
      exact ⟨[d], rest, here.symm, (admits_iff_takes star mark).1 admits, found⟩
    · rintro ⟨part, rest, here, taken, found⟩
      obtain ⟨d, rfl⟩ := taken.eq_singleton star
      exact ⟨d, rest, here.symm, (admits_iff_takes star mark).2 taken, found⟩

/-- **The expression of a glob matches what the pattern cuts,** from any position of a
name to its end. -/
theorem matcher_iff_cuts (pattern : List Char) {s : Spot} (inside : s.position ≤ text.size) :
    ((ofGlobChars pattern).matcher text s some).isSome ↔
      Glob.Cuts pattern (text.toList.drop s.position) := by
  induction pattern generalizing s with
  | nil =>
    rw [Glob.cuts_nil, List.drop_eq_nil_iff, Array.length_toList]
    change (if (s.position == text.size) = true then some s else none).isSome ↔ _
    split_ifs with finished
    · exact iff_of_true rfl (Nat.le_of_eq (beq_iff_eq.1 finished).symm)
    · exact iff_of_false (by simp) fun le => finished (beq_iff_eq.2 (Nat.le_antisymm inside le))
  | cons c pattern ih =>
    rw [Glob.cuts_cons]
    refine (matcher_ofGlobChar inside).trans (exists_congr fun part => exists_congr fun rest =>
      and_congr_right fun here => and_congr_right fun _ => ?_)
    have length := congrArg List.length here
    rw [List.length_append, List.length_drop, @Array.length_toList _ text] at length
    refine (ih (s := s.goTo (s.position + part.length)) ?_).trans ?_
    · change s.position + part.length ≤ _
      omega
    · change Glob.Cuts pattern (text.toList.drop (s.position + part.length)) ↔ _
      rw [← List.drop_drop, ← here, List.drop_left]

end

/-! ## §4 Globs -/

/-- The regular expression that a text writes, with flags for the whole of it. -/
def ofPatternWith (flags : Flags) (text : String) : Except Refusal Regex := do
  let p ← Pattern.read text
  let groups := fun g => ((p.widths[g]?).join).getD (0, 0)
  let mode := patternMode (flags ++ p.flags)
  let e ← Expression.ofNode (p.flags.contains .template) groups mode p.node
  return ⟨e, p.widths.length⟩

theorem ofPatternWith_regexText (segment : String) :
    ofPatternWith [.dotAll] (Glob.regexText segment) =
      .ok ⟨ofGlobChars (Glob.mergeStars segment.toList), 1⟩ := by
  rw [ofPatternWith, Glob.regexText, read_regexChars, ok_bind]
  exact bind_eq_ok.2 ⟨_, ofNode_nodes _ _, rfl⟩

end Regex

namespace Glob

/-- **A glob is matched by cutting a name into parts** that the characters of the
pattern take in turn: a star any part, a question mark any one character, and every
other character one that differs from it at most in case. So several stars in a row
are as good as one, and the first and the last character of the pattern take the two
ends of the name, whatever these are. Written as a regular expression, the pattern is
read without refusal and matches the same names. -/
theorem covers_iff_parts :
    (∀ segment name : String, (ofText segment).covers name = true ↔
      ∃ parts : List (List Char), parts.flatten = name.toList ∧
        List.Forall₂ Takes segment.toList parts) ∧
    (∀ (before after : List Char) (n : Nat) (name : String),
      (ofText (String.ofList (before ++ List.replicate (n + 1) '*' ++ after))).covers name =
        (ofText (String.ofList (before ++ ['*'] ++ after))).covers name) ∧
    (∀ (c : Char) (rest name : List Char),
      (ofText (String.ofList (c :: rest))).covers (String.ofList name) = true ↔
        ∃ part back, part ++ back = name ∧ Takes c part ∧
          (ofText (String.ofList rest)).covers (String.ofList back) = true) ∧
    (∀ (before name : List Char) (c : Char),
      (ofText (String.ofList (before ++ [c]))).covers (String.ofList name) = true ↔
        ∃ front part, front ++ part = name ∧
          (ofText (String.ofList before)).covers (String.ofList front) = true ∧ Takes c part) ∧
    (∀ segment : String, ∃ r, Regex.ofPatternWith [.dotAll] (regexText segment) = .ok r ∧
      ∀ name : String,
        (r.matchFrom? name.toList.toArray 0).isSome = (ofText segment).covers name) := by
  refine ⟨fun segment name => covers_iff_cuts, fun before after n name => ?_,
    fun c rest name => ?_, fun before name c => ?_, fun segment => ?_⟩
  · have one (s : List Char) : Cuts (List.replicate (n + 1) '*') s ↔ Cuts ['*'] s :=
      iff_of_true (cuts_stars n s) (cuts_stars 0 s)
    rw [Bool.eq_iff_iff, covers_iff_cuts, covers_iff_cuts]
    simp only [String.toList_ofList, cuts_append, one]
  · simp only [covers_iff_cuts, String.toList_ofList]
    exact cuts_cons
  · simp only [covers_iff_cuts, String.toList_ofList, cuts_append, cuts_singleton]
  · refine ⟨_, Regex.ofPatternWith_regexText segment, fun name => ?_⟩
    have start : (Regex.Spot.fresh 1 0).position ≤ name.toList.toArray.size := Nat.zero_le _
    rw [Bool.eq_iff_iff, covers_iff_cuts, ← cuts_mergeStars]
    exact Regex.matcher_iff_cuts (mergeStars segment.toList) start

end Glob

end TreeSift
