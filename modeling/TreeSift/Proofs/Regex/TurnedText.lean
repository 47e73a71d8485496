/-
  TreeSift.Proofs.Regex.TurnedText — matching with slash and backslash exchanged.

  Slash and backslash are nothing to the case of letters, to the classes of
  characters and to the places of a text. So an expression with the separators
  exchanged matches a text with the separators exchanged just as the expression
  itself matches the text itself: `turns_ofNode`. The one thing that can tell them
  apart is a range that holds one of them only.

    §1 Case        `CaseRule.lower_turnCode`, `CaseRule.same_turnCode`
    §2 Characters  `Evenhanded`, `any_holds_turned`
    §3 Atoms       `matcher_atom_turned`
    §4 Nodes       `Turns`, `turns_ofNode`
-/
import TreeSift.Proofs.Fallible
import TreeSift.Proofs.Regex.Turned
import TreeSift.Regex.Basic

namespace TreeSift.Regex

open Fallible

/-! ## §1 Case -/

/-- A way to compare code points that leaves separators alone, and moves nothing
down to them, exchanges with `turnCode`. -/
theorem turnCode_exchange {f : Nat → Nat} (slash : f 0x2F = 0x2F) (backslash : f 0x5C = 0x5C)
    (others : ∀ n, f n = n ∨ 0x5C < f n) (n : Nat) : f (turnCode n) = turnCode (f n) := by
  unfold turnCode
  rcases others n with same | above
  · rw [same]
    split_ifs <;> simp_all
  · have : n ≠ 0x2F := by rintro rfl; omega
    have : n ≠ 0x5C := by rintro rfl; omega
    simp only [*, if_false]
    rw [if_neg (by omega), if_neg (by omega)]

theorem asciiLower_cases (n : Nat) :
    CaseRule.asciiLower n = n ∨ 0x5C < CaseRule.asciiLower n := by
  unfold CaseRule.asciiLower
  split_ifs with upper
  · simp only [Bool.and_eq_true, decide_eq_true_eq] at upper
    omega
  · exact .inl rfl

theorem mapCode_cases {t : List Text.Run} (above : ∀ r ∈ t, 0x5C < r.image) (n : Nat) :
    Text.mapCode t n = n ∨ 0x5C < Text.mapCode t n := by
  induction t with
  | nil => exact .inl rfl
  | cons r rest ih =>
    rw [Text.mapCode]
    split
    · exact .inl rfl
    · unfold Text.Run.image?
      split_ifs
      · have := above r List.mem_cons_self
        exact .inr (by simp only; omega)
      · exact ih fun q inside => above q (List.mem_cons_of_mem _ inside)

theorem lowerCode_cases (n : Nat) : Text.lowerCode n = n ∨ 0x5C < Text.lowerCode n :=
  mapCode_cases (by decide +kernel) n

theorem likenessCode_cases (n : Nat) : Text.likenessCode n = n ∨ 0x5C < Text.likenessCode n := by
  have pairs : ∀ p ∈ Text.likenessPairs, 0x5C < p.2 := by decide
  unfold Text.likenessCode
  simp only
  split_ifs
  · exact lowerCode_cases n
  · cases found : Text.likenessPairs.lookup (Text.lowerCode n) with
    | none => exact lowerCode_cases n
    | some m =>
      obtain ⟨before, after, split, -⟩ := List.lookup_eq_some_iff.mp found
      exact .inr (pairs (Text.lowerCode n, m) (by rw [split]; simp))

namespace CaseRule

theorem lower_turnCode (rule : CaseRule) (n : Nat) :
    rule.lower (turnCode n) = turnCode (rule.lower n) := by
  cases rule with
  | exact => rfl
  | ascii => exact turnCode_exchange (by decide) (by decide) asciiLower_cases n
  | full => exact turnCode_exchange (by decide +kernel) (by decide +kernel) lowerCode_cases n

theorem same_turnCode (rule : CaseRule) (m n : Nat) :
    rule.same (turnCode m) (turnCode n) = rule.same m n := by
  cases rule with
  | exact => simp only [same, beq_turnCode]
  | ascii =>
    have turned := turnCode_exchange (f := asciiLower) (by decide) (by decide) asciiLower_cases
    simp only [same, turned, beq_turnCode]
  | full =>
    have turned := turnCode_exchange (by decide +kernel) (by decide +kernel) likenessCode_cases
    simp only [same, turned, beq_turnCode]

end CaseRule

/-! ## §2 Characters -/

theorem Category.holds_turn (asciiOnly : Bool) (k : Category) (c : Char) :
    k.holds asciiOnly (turn c) = k.holds asciiOnly c := by
  have separators : k.holds asciiOnly '/' = k.holds asciiOnly '\\' := by
    cases asciiOnly <;> cases k <;> decide +kernel
  rcases turn_cases c with rfl | rfl | same
  · exact separators.symm
  · exact separators
  · rw [same]

namespace SetItem

/-- Whether a part of a set is a range that holds a code point. -/
def Spans (n : Nat) : SetItem → Prop
  | range first last => first ≤ n ∧ n ≤ last
  | _ => False

instance (n : Nat) : DecidablePred (Spans n)
  | range first last => inferInstanceAs (Decidable (first ≤ n ∧ n ≤ last))
  | code _ | category _ _ => inferInstanceAs (Decidable False)

/-- Whether a part of a set that is no range holds a slash: it is one, or all that
belongs to no class. -/
def NamesSlash : SetItem → Prop
  | code n => n = 0x2F
  | range _ _ => False
  | category _ negated => negated = true

instance : DecidablePred NamesSlash
  | code n => inferInstanceAs (Decidable (n = 0x2F))
  | range _ _ => inferInstanceAs (Decidable False)
  | category _ negated => inferInstanceAs (Decidable (negated = true))

/-- On a separator, case makes no difference to a range. -/
theorem range_holds_separator (first last : Nat) (rule : CaseRule) (asciiOnly : Bool) {c : Char}
    (separator : c = '/' ∨ c = '\\') :
    (range first last).holds rule asciiOnly c ↔ first ≤ c.toNat ∧ c.toNat ≤ last := by
  have lower : rule.lower c.toNat = c.toNat := by
    rcases separator with rfl | rfl <;> cases rule <;> decide +kernel
  have upper : upperCode c.toNat = c.toNat := by
    rcases separator with rfl | rfl <;> decide +kernel
  have sames : rule.sames c.toNat = [c.toNat] := by
    rcases separator with rfl | rfl <;> cases rule <;> decide +kernel
  have small : c.toNat ≤ planeEnd := by
    rcases separator with rfl | rfl <;> decide
  cases rule with
  | exact => simp [holds]
  | ascii | full =>
    simp only [holds, lower, upper, sames, List.any_cons, List.any_nil, Bool.or_false,
      Bool.or_eq_true, Bool.and_eq_true, decide_eq_true_eq]
    omega

theorem code_holds_turned (n : Nat) (rule : CaseRule) (asciiOnly : Bool) (c : Char) :
    (code (turnCode n)).holds rule asciiOnly (turn c) = (code n).holds rule asciiOnly c := by
  have plane : turnCode n ≤ planeEnd ↔ n ≤ planeEnd := by
    unfold turnCode planeEnd
    split_ifs <;> omega
  simp only [holds, toNat_turn, CaseRule.same_turnCode, CaseRule.lower_turnCode, plane,
    beq_turnCode]

/-- On all characters but the separators, exchanging them changes nothing. -/
theorem holds_turned_of_ne (item : SetItem) (rule : CaseRule) (asciiOnly : Bool) {c : Char}
    (other : turn c = c) : item.turned.holds rule asciiOnly c = item.holds rule asciiOnly c := by
  cases item with
  | code n =>
    have turned := code_holds_turned n rule asciiOnly c
    rwa [other] at turned
  | range | category => rfl

theorem code_holds_slash (n : Nat) (rule : CaseRule) (asciiOnly : Bool) :
    (code n).holds rule asciiOnly '/' ↔ n = 0x2F := by
  have fixed {f : Nat → Nat} (slash : f 0x2F = 0x2F) (others : ∀ n, f n = n ∨ 0x5C < f n) :
      (f n == f 0x2F) ↔ n = 0x2F := by
    rw [beq_iff_eq, slash]
    constructor
    · intro eq
      have := others n
      omega
    · rintro rfl
      exact slash
  have lower : rule.lower '/'.toNat = 0x2F := by cases rule <;> decide +kernel
  simp only [holds, lower]
  split
  · cases rule with
    | exact => exact beq_iff_eq
    | ascii => exact fixed (f := CaseRule.asciiLower) (by decide) asciiLower_cases
    | full => exact fixed (f := Text.likenessCode) (by decide +kernel) likenessCode_cases
  · exact beq_iff_eq

theorem category_holds_slash (k : Category) (negated : Bool) (rule : CaseRule) (asciiOnly : Bool) :
    (category k negated).holds rule asciiOnly '/' = negated := by
  have lower : Char.ofNat (rule.lower '/'.toNat) = '/' := by cases rule <;> decide +kernel
  have outside : k.holds asciiOnly '/' = false := by
    cases asciiOnly <;> cases k <;> decide +kernel
  rw [holds, lower, outside, Bool.false_bne]

theorem holds_slash_iff (item : SetItem) (rule : CaseRule) (asciiOnly : Bool) :
    item.holds rule asciiOnly '/' ↔ item.NamesSlash ∨ item.Spans 0x2F := by
  cases item with
  | code n => exact (code_holds_slash n rule asciiOnly).trans (or_false _).symm.to_iff
  | range first last =>
    exact (range_holds_separator first last rule asciiOnly (.inl rfl)).trans
      (false_or _).symm.to_iff
  | category k negated =>
    rw [category_holds_slash]
    exact (or_false _).symm.to_iff

theorem turned_holds_backslash_iff (item : SetItem) (rule : CaseRule) (asciiOnly : Bool) :
    item.turned.holds rule asciiOnly '\\' ↔ item.NamesSlash ∨ item.Spans 0x5C := by
  cases item with
  | code n =>
    rw [turned, show '\\' = turn '/' from rfl, code_holds_turned]
    exact (code_holds_slash n rule asciiOnly).trans (or_false _).symm.to_iff
  | range first last =>
    exact (range_holds_separator first last rule asciiOnly (.inr rfl)).trans
      (false_or _).symm.to_iff
  | category k negated =>
    have same : (category k negated).holds rule asciiOnly '\\' =
        (category k negated).holds rule asciiOnly '/' := by
      cases rule <;> exact congrArg (· != negated) (k.holds_turn asciiOnly '/')
    rw [turned, same, category_holds_slash]
    exact (or_false _).symm.to_iff

end SetItem

/-- Whether a set treats the separators alike: it names the slash, or it has a range
that holds the slash just if it has one that holds the backslash. -/
def Evenhanded (items : List SetItem) : Prop :=
  (∃ item ∈ items, item.NamesSlash) ∨
    ((∃ item ∈ items, item.Spans 0x2F) ↔ ∃ item ∈ items, item.Spans 0x5C)

instance (items : List SetItem) : Decidable (Evenhanded items) :=
  inferInstanceAs (Decidable (_ ∨ (_ ↔ _)))

theorem any_holds_turned {items : List SetItem} (even : Evenhanded items) (rule : CaseRule)
    (asciiOnly : Bool) {c : Char} (plain : c ≠ '\\') :
    (items.map SetItem.turned).any (·.holds rule asciiOnly (turn c)) =
      items.any (·.holds rule asciiOnly c) := by
  rw [List.any_map, Bool.eq_iff_iff, List.any_eq_true, List.any_eq_true]
  rcases turn_cases c with rfl | backslash | other
  · change (∃ item ∈ items, item.turned.holds rule asciiOnly '\\') ↔ _
    simp only [SetItem.turned_holds_backslash_iff, SetItem.holds_slash_iff, and_or_left, exists_or]
    rcases even with named | spanned
    · exact iff_of_true (.inl named) (.inl named)
    · exact or_congr_right spanned.symm
  · exact absurd backslash plain
  · refine exists_congr fun item => and_congr_right fun _ => ?_
    rw [Function.comp_apply, other, SetItem.holds_turned_of_ne item rule asciiOnly other]

/-! ## §3 Atoms -/

theorem place_holds_turn (p : Place) (text : Array Char) (i : Nat) :
    p.holds (text.map turn) i = p.holds text i := by
  have word (asciiOnly : Bool) (j : Nat) :
      Place.isWordAt asciiOnly (text.map turn) j = Place.isWordAt asciiOnly text j := by
    unfold Place.isWordAt
    rw [Array.getElem?_map]
    cases text[j]? with
    | none => rfl
    | some c => exact Category.word.holds_turn asciiOnly c
  have before (asciiOnly : Bool) :
      Place.isWordBefore asciiOnly (text.map turn) i = Place.isWordBefore asciiOnly text i := by
    cases i with
    | zero => rfl
    | succ j => exact word asciiOnly j
  have feed (j : Nat) : ((text.map turn)[j]? == some '\n') = (text[j]? == some '\n') := by
    rw [Array.getElem?_map]
    cases text[j]? with
    | none => rfl
    | some c => rw [Option.map_some, Bool.eq_iff_iff, beq_iff_eq, beq_iff_eq, Option.some.injEq,
        Option.some.injEq, turn_eq_iff]; rfl
  cases p with
  | textStart => rfl
  | lineStart =>
    cases i with
    | zero => rfl
    | succ j => exact feed j
  | textEnd | finish | lineEnd | wordBoundary | inner =>
    simp only [Place.holds, Array.size_map, word, before, feed]

theorem repeats_turn (rule : CaseRule) (text : Array Char) (first here count : Nat) :
    repeats rule (text.map turn) first here count = repeats rule text first here count := by
  induction count generalizing first here with
  | zero => rfl
  | succ count ih =>
    simp only [repeats, Array.getElem?_map, ih]
    cases text[first]? with
    | none => rfl
    | some c =>
      cases text[here]? with
      | none => rfl
      | some d => simp only [Option.map_some, toNat_turn, CaseRule.lower_turnCode, beq_turnCode]

theorem matcher_char_turn {t u : CharTest} {text : Array Char} (plain : '\\' ∉ text)
    (same : ∀ c, c ≠ '\\' → t.admits (turn c) = u.admits c) :
    (Expression.char t).matcher (text.map turn) = (Expression.char u).matcher text := by
  refine congrArg Matcher.step (funext fun s => ?_)
  rw [Array.getElem?_map]
  cases found : text[s.position]? with
  | none => rfl
  | some c => exact same c fun eq => plain (eq ▸ Array.mem_of_getElem? found)

theorem matcher_atom_turned {a : Atom} (even : ∀ items ∈ (Node.atom a).sets, Evenhanded items)
    (m : Mode) {text : Array Char} (plain : '\\' ∉ text) :
    (m.atom a.turned).matcher (text.map turn) = (m.atom a).matcher text := by
  cases a with
  | code n | notCode n =>
    refine matcher_char_turn plain fun c _ => ?_
    simp only [CharTest.admits, toNat_turn, CaseRule.same_turnCode]
  | any =>
    refine matcher_char_turn plain fun c _ => ?_
    cases m.dotAll with
    | true => rfl
    | false =>
      have feed : turn c = '\n' ↔ c = '\n' := turn_eq_iff
      simp [CharTest.admits, feed, bne]
  | set negated items =>
    refine matcher_char_turn plain fun c other => ?_
    exact congrArg (· != negated)
      (any_holds_turned (even items List.mem_cons_self) m.caseRule m.asciiOnly other)
  | anchor a =>
    funext s k
    simp only [Atom.turned, Mode.atom, Expression.matcher, place_holds_turn]
  | reference g =>
    funext s k
    simp only [Atom.turned, Mode.atom, Expression.matcher, referenceMatcher, repeats_turn]

/-! ## §4 Nodes -/

/-- Where one expression is there, so is the other, and it matches a text with the
separators exchanged as the first matches the text itself. -/
def Turns (x y : Except Refusal Expression) : Prop :=
  ∀ e, x = .ok e → ∃ e', y = .ok e' ∧
    ∀ text : Array Char, '\\' ∉ text → e'.matcher (text.map turn) = e.matcher text

theorem Turns.map {x y : Except Refusal Expression} (turns : Turns x y)
    {f : Expression → Expression}
    (keeps : ∀ {a b : Expression} {text : Array Char},
      b.matcher (text.map turn) = a.matcher text →
        (f b).matcher (text.map turn) = (f a).matcher text) :
    Turns (do return f (← x)) (do return f (← y)) := by
  intro e resolved
  obtain ⟨a, first, eq⟩ := bind_eq_ok.mp resolved
  obtain ⟨b, second, same⟩ := turns a first
  cases eq
  exact ⟨f b, by rw [second]; rfl, fun text plain => keeps (same text plain)⟩

theorem Turns.map₂ {x y z w : Except Refusal Expression} (turns : Turns x y) (turnsToo : Turns z w)
    {f : Expression → Expression → Expression}
    (keeps : ∀ {a b c d : Expression} {text : Array Char},
      b.matcher (text.map turn) = a.matcher text → d.matcher (text.map turn) = c.matcher text →
        (f b d).matcher (text.map turn) = (f a c).matcher text) :
    Turns (do return f (← x) (← z)) (do return f (← y) (← w)) := by
  intro e resolved
  obtain ⟨a, first, rest⟩ := bind_eq_ok.mp resolved
  obtain ⟨c, next, eq⟩ := bind_eq_ok.mp rest
  cases eq
  obtain ⟨b, second, same⟩ := turns a first
  obtain ⟨d, last, sameToo⟩ := turnsToo c next
  exact ⟨f b d, by rw [second, last]; rfl, fun text plain =>
    keeps (same text plain) (sameToo text plain)⟩

/-- **Exchanging the separators in an expression and in the text it is matched
against changes nothing**, as long as every set treats them alike. -/
theorem turns_ofNode (template : Bool) (groups : Nat → Nat × Nat) (m : Mode) {n : Node}
    (even : ∀ items ∈ n.sets, Evenhanded items) :
    Turns (Expression.ofNode template groups m n)
      (Expression.ofNode template groups m n.turned) := by
  induction n generalizing m with
  | empty =>
    rintro e ⟨⟩
    exact ⟨.empty, rfl, fun _ _ => rfl⟩
  | atom a =>
    rintro e ⟨⟩
    exact ⟨m.atom a.turned, rfl, fun _ => matcher_atom_turned even m⟩
  | seq a b iha ihb | alt a b iha ihb | condition g a b iha ihb =>
    obtain ⟨evenA, evenB⟩ := List.forall_mem_append.mp even
    exact (iha m evenA).map₂ (ihb m evenB) fun sameA sameB => by
      simp only [Expression.matcher, sameA, sameB]
  | group index added removed body ih =>
    have turns := ih (m.change added removed) even
    cases index with
    | none => exact turns.map (f := id) id
    | some g =>
      exact turns.map (f := .capture g) fun same => by simp only [Expression.matcher, same]
  | atomic body ih =>
    exact (ih m even).map fun same => by simp only [Expression.matcher, same]
  | repeated greed least most body ih =>
    cases template with
    | true => exact fun e refused => by cases refused
    | false =>
      refine (ih m even).map fun same => ?_
      cases greed <;> simp only [Expression.matcher, same, Array.size_map]
  | look behind negated body ih =>
    cases behind with
    | false =>
      refine (ih m even).map fun same => ?_
      cases negated <;> simp only [Expression.matcher, same]
    | true =>
      simp only [Node.turned, Expression.ofNode, Node.width_turned]
      split_ifs
      iterate 3 exact fun e refused => by cases refused
      refine (ih m even).map fun same => ?_
      cases negated <;> simp only [Expression.matcher, same]

/-- A regular expression with the separators exchanged is found in a text with the
separators exchanged if it is found in the text itself. -/
theorem isFoundIn_turned {r r' : TreeSift.Regex} (groups : r'.groups = r.groups)
    (same : ∀ text : Array Char, '\\' ∉ text →
      r'.expression.matcher (text.map turn) = r.expression.matcher text)
    {s : String} (plain : '\\' ∉ s.toList) : r'.isFoundIn (s.map turn) = r.isFoundIn s := by
  have chars : (s.map turn).toList.toArray = s.toList.toArray.map turn := by
    rw [String.toList_map, List.map_toArray]
  have plain : '\\' ∉ s.toList.toArray := fun inside => plain (List.mem_toArray.mp inside)
  simp only [isFoundIn, matchFrom?, chars, same _ plain, groups, Array.size_map]

end TreeSift.Regex
