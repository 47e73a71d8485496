/-
  TreeSift.Proofs.Rules.Grammar — which lines write rules.

  A rule is written as a sign, a letter for the method, a letter for the target, a
  colon and the pattern. The letters are compared in lower case, of all of Unicode;
  still each of them comes from itself and its capital only (`eq_of_lower`). Whatever
  stands behind the colon is the pattern, blanks at its start included. Trimming a
  trimmed line changes nothing, so the line that a rule keeps writes it again.

    §1 Letters  `signs`, `methodLetters`, `targetLetters`, `kind?_eq_some_iff`
    §2 Lines    `Writes`, `parse?_eq_some_iff`
    §3 Rules    `opening`, `trimmed_opening_append`, `parse_follows_grammar`
-/
import TreeSift.Proofs.Rules.Effects
import TreeSift.Proofs.Text.Lower

namespace TreeSift.Rule

/-! ## §1 Letters -/

/-- The signs and their actions. -/
def signs : List (Char × RuleAction) := [('+', .add), ('-', .remove)]

/-- The letters of the methods. -/
def methodLetters : List (Char × Method) :=
  [('w', .wildcard), ('W', .wildcard), ('r', .plainRegex), ('R', .plainRegex)]

/-- The letters of the targets. -/
def targetLetters : List (Char × Target) :=
  [('f', .file), ('F', .file), ('d', .directory), ('D', .directory)]

theorem ofSign?_eq_some_iff {sign : Char} {action : RuleAction} :
    RuleAction.ofSign? sign = some action ↔ (sign, action) ∈ signs := by
  unfold RuleAction.ofSign?
  split
  · simp [signs, eq_comm]
  · simp [signs, eq_comm]
  · rename_i plus minus
    simp only [signs, List.mem_cons, Prod.mk.injEq, List.not_mem_nil, or_false, reduceCtorEq,
      false_iff]
    rintro (⟨rfl, -⟩ | ⟨rfl, -⟩)
    · exact plus rfl
    · exact minus rfl

/-- The characters of a rule between its sign and its pattern, in lower case. The letters
k and i are not among them: the signs for kelvin and İ have these in lower case. -/
def kindCharacters : List Char := ['w', 'r', 'f', 'd', ':']

/-- Only a character itself and its capital have such a lower case. -/
theorem eq_of_lowerChar {c d : Char} (known : d ∈ kindCharacters)
    (lower : Text.lowerChar c = d) : c = d ∨ c = d.toUpper := by
  -- Going through the characters of the list, not through all that there are.
  have sources : kindCharacters.Forall fun d =>
      ∀ n ∈ Text.sources Text.lowerRuns d.toNat, n = d.toUpper.toNat := by decide +kernel
  rcases Text.toNat_of_lowerChar lower with same | other
  · exact .inl (Char.toNat_inj.1 same)
  · exact .inr (Char.toNat_inj.1 (List.forall_iff_forall_mem.1 sources d known c.toNat other))

/-- A text with such characters in lower case has these or their capitals, one each. -/
theorem forall₂_of_lowerAfter {before s ds : List Char} (known : ∀ d ∈ ds, d ∈ kindCharacters)
    (lower : Text.lowerAfter before s = ds) :
    List.Forall₂ (fun c d => c = d ∨ c = d.toUpper) s ds := by
  have plain : ∀ d ∈ kindCharacters, d ∉ ['i', 'σ', 'ς'] := by simp [kindCharacters]
  induction ds generalizing before s with
  | nil =>
    rw [Text.lowerAfter_eq_nil lower]
    exact .nil
  | cons d ds ih =>
    obtain ⟨here, others⟩ := List.forall_mem_cons.1 known
    obtain ⟨c, rest, rfl, first, later⟩ := Text.lowerAfter_eq_cons (plain d here) lower
    exact .cons (eq_of_lowerChar here first) (ih others later)

theorem eq_of_lower {b c e x y : Char} (known : ∀ d ∈ [x, y, ':'], d ∈ kindCharacters)
    (lower : Text.lower (String.ofList [b, c, e]) = String.ofList [x, y, ':']) :
    (b = x ∨ b = x.toUpper) ∧ (c = y ∨ c = y.toUpper) ∧ e = ':' := by
  have lowered : Text.lowerAfter [] [b, c, e] = [x, y, ':'] := by
    have same := congrArg String.toList lower
    rwa [Text.lower, String.toList_ofList, String.toList_ofList, String.toList_ofList] at same
  have colon : e = ':' ∨ e = ':'.toUpper → e = ':' := by
    rintro (rfl | rfl) <;> rfl
  obtain ⟨first, ⟨second, ⟨third, -⟩⟩⟩ := by
    simpa only [List.forall₂_cons] using forall₂_of_lowerAfter known lowered
  exact ⟨first, second, colon third⟩

/-- A kind is known by two letters, and their capitals are its letters too. -/
theorem exists_letters_of_kind? {text : String} {method : Method} {target : Target}
    (found : kind? text = some (method, target)) :
    ∃ x y, text = String.ofList [x, y, ':'] ∧ (∀ d ∈ [x, y, ':'], d ∈ kindCharacters) ∧
      (∀ b, b = x ∨ b = x.toUpper → (b, method) ∈ methodLetters) ∧
        ∀ c, c = y ∨ c = y.toUpper → (c, target) ∈ targetLetters := by
  have w : ∀ b, b = 'w' ∨ b = 'w'.toUpper → (b, Method.wildcard) ∈ methodLetters := by
    rintro b (rfl | rfl) <;> decide
  have r : ∀ b, b = 'r' ∨ b = 'r'.toUpper → (b, Method.plainRegex) ∈ methodLetters := by
    rintro b (rfl | rfl) <;> decide
  have f : ∀ c, c = 'f' ∨ c = 'f'.toUpper → (c, Target.file) ∈ targetLetters := by
    rintro c (rfl | rfl) <;> decide
  have d : ∀ c, c = 'd' ∨ c = 'd'.toUpper → (c, Target.directory) ∈ targetLetters := by
    rintro c (rfl | rfl) <;> decide
  unfold kind? at found
  split at found
  · obtain ⟨rfl, rfl⟩ := Prod.mk.inj (Option.some.inj found)
    exact ⟨'w', 'f', rfl, by simp [kindCharacters], w, f⟩
  · obtain ⟨rfl, rfl⟩ := Prod.mk.inj (Option.some.inj found)
    exact ⟨'r', 'f', rfl, by simp [kindCharacters], r, f⟩
  · obtain ⟨rfl, rfl⟩ := Prod.mk.inj (Option.some.inj found)
    exact ⟨'w', 'd', rfl, by simp [kindCharacters], w, d⟩
  · obtain ⟨rfl, rfl⟩ := Prod.mk.inj (Option.some.inj found)
    exact ⟨'r', 'd', rfl, by simp [kindCharacters], r, d⟩
  · exact absurd found (by simp)

theorem kind?_eq_some_iff {b c e : Char} {method : Method} {target : Target} :
    kind? (Text.lower (String.ofList [b, c, e])) = some (method, target) ↔
      (b, method) ∈ methodLetters ∧ (c, target) ∈ targetLetters ∧ e = ':' := by
  constructor
  · intro found
    obtain ⟨x, y, lower, known, methods, targets⟩ := exists_letters_of_kind? found
    obtain ⟨first, second, colon⟩ := eq_of_lower known lower
    exact ⟨methods b first, targets c second, colon⟩
  · rintro ⟨hb, hc, rfl⟩
    have table : ∀ m ∈ methodLetters, ∀ t ∈ targetLetters,
        kind? (Text.lower (String.ofList [m.1, t.1, ':'])) = some (m.2, t.2) := by
      decide +kernel
    exact table (b, method) hb (c, target) hc

/-! ## §2 Lines -/

/-- How a rule is written: a sign, two letters in either case, a colon and the pattern.
The rule keeps the text it is written as. -/
def Writes (text : String) (r : Rule) : Prop :=
  ∃ a b c, text = String.ofList (a :: b :: c :: ':' :: r.pattern.toList) ∧
    (a, r.action) ∈ signs ∧ (b, r.method) ∈ methodLetters ∧ (c, r.target) ∈ targetLetters ∧
      r.line = text

/-- A trimmed line is read as the rule that it writes, and as nothing else. -/
theorem ofTrimmed?_eq_some_iff {line : List Char} {r : Rule} :
    ofTrimmed? line = some r ↔ Writes (String.ofList line) r := by
  constructor
  · intro read
    unfold ofTrimmed? at read
    split at read
    · rename_i a b c e pattern
      split at read
      · rename_i action method target sign kind
        obtain rfl := Option.some.inj read
        obtain ⟨letter, letter', rfl⟩ := kind?_eq_some_iff.1 kind
        refine ⟨a, b, c, ?_, ofSign?_eq_some_iff.1 sign, letter, letter', rfl⟩
        rw [String.toList_ofList]
      · exact absurd read (by simp)
    · exact absurd read (by simp)
  · obtain ⟨action, method, target, pattern, kept⟩ := r
    rintro ⟨a, b, c, text, sign, letter, letter', same⟩
    dsimp only at text sign letter letter' same
    obtain rfl := String.ofList_injective text
    have found := ofSign?_eq_some_iff.2 sign
    have kind := kind?_eq_some_iff.2 ⟨letter, letter', rfl⟩
    simp only [ofTrimmed?, found, kind, String.ofList_toList, same]

theorem parse?_eq_some_iff {line : Option String} {r : Rule} :
    parse? line = some r ↔ Writes (Text.trim (line.getD "")) r := ofTrimmed?_eq_some_iff

/-! ## §3 Rules -/

/-- The sign of an action. -/
def sign : RuleAction → Char
  | .add => '+'
  | .remove => '-'

/-- The letter of a method, in lower case. -/
def methodLetter : Method → Char
  | .wildcard => 'w'
  | .regex _ => 'r'

/-- The letter of a target, in lower case. -/
def targetLetter : Target → Char
  | .file => 'f'
  | .directory => 'd'

/-- What stands before the pattern of a rule. -/
def opening (action : RuleAction) (method : Method) (target : Target) : List Char :=
  [sign action, methodLetter method, targetLetter target, ':']

/-- An opening has no blanks at its ends, so whether a line is trimmed is up to the end of
its pattern. -/
theorem trimmed_opening_append (action : RuleAction) (method : Method) (target : Target)
    {pattern : List Char} (trim : Text.trimEnd pattern = pattern) :
    Text.trimmed (opening action method target ++ pattern) =
      opening action method target ++ pattern := by
  apply Text.trimmed_eq_self
  · intro c hc
    obtain rfl := Option.some.inj hc
    cases action <;> decide
  · rw [Text.trimEnd_eq, List.rdropWhile_eq_self_iff] at trim
    intro c hc
    rw [List.getLast?_append, Option.mem_def, Option.or_eq_some_iff] at hc
    rcases hc with last | ⟨-, colon⟩
    · have ne : pattern ≠ [] := by
        rintro rfl
        exact absurd last (by simp)
      rw [List.getLast?_eq_some_getLast ne] at last
      obtain rfl := Option.some.inj last
      simpa using trim ne
    · obtain rfl : ':' = c := Option.some.inj colon
      decide

theorem writes_opening_append (action : RuleAction) {method : Method}
    (known : method ∈ [Method.wildcard, .plainRegex]) (target : Target) (pattern : List Char) :
    Writes (String.ofList (opening action method target ++ pattern))
      ⟨action, method, target, String.ofList pattern,
        String.ofList (opening action method target ++ pattern)⟩ := by
  have hsign : (sign action, action) ∈ signs := by cases action <;> decide
  have hmethod : ∀ m ∈ [Method.wildcard, .plainRegex], (methodLetter m, m) ∈ methodLetters := by
    decide
  have htarget : (targetLetter target, target) ∈ targetLetters := by cases target <;> decide
  refine ⟨sign action, methodLetter method, targetLetter target, ?_, hsign, hmethod method known,
    htarget, rfl⟩
  rw [String.toList_ofList]
  rfl

/-- **Rules and how they are written.** A line is a rule if after trimming it is a sign,
two letters, a colon and any text, whatever the case of the letters, and no other
character counts as one of them. The sign and the letters then say what the rule does,
the text behind the colon is its pattern as it stands, and the rule keeps the trimmed
line, which is read as the same rule again. Every kind of rule can be written with any
pattern that has no blanks at its end. -/
theorem parse_follows_grammar :
    (∀ line, (∃ r, parse? line = some r) ↔
      ∃ a b c pattern, Text.trim (line.getD "") = String.ofList (a :: b :: c :: ':' :: pattern) ∧
        a ∈ ['+', '-'] ∧ b ∈ ['w', 'W', 'r', 'R'] ∧ c ∈ ['f', 'F', 'd', 'D']) ∧
    (∀ line r, parse? line = some r ↔ Writes (Text.trim (line.getD "")) r) ∧
    (∀ line r, parse? line = some r → parse? (some r.line) = some r) ∧
    ∀ action target pattern, ∀ method ∈ [Method.wildcard, .plainRegex],
      Text.trimEnd pattern = pattern →
        parse? (some (String.ofList (opening action method target ++ pattern))) =
          some ⟨action, method, target, String.ofList pattern,
            String.ofList (opening action method target ++ pattern)⟩ := by
  refine ⟨?_, fun _ _ => parse?_eq_some_iff, ?_, ?_⟩
  · intro line
    have listed {β : Type} (t : List (Char × β)) (x : Char) :
        x ∈ t.map Prod.fst ↔ ∃ y, (x, y) ∈ t := by simp
    constructor
    · rintro ⟨r, read⟩
      obtain ⟨a, b, c, text, ha, hb, hc, -⟩ := parse?_eq_some_iff.1 read
      exact ⟨a, b, c, _, text, (listed signs a).2 ⟨_, ha⟩, (listed methodLetters b).2 ⟨_, hb⟩,
        (listed targetLetters c).2 ⟨_, hc⟩⟩
    · rintro ⟨a, b, c, pattern, text, ha, hb, hc⟩
      obtain ⟨action, ha⟩ := (listed signs a).1 ha
      obtain ⟨method, hb⟩ := (listed methodLetters b).1 hb
      obtain ⟨target, hc⟩ := (listed targetLetters c).1 hc
      refine ⟨⟨action, method, target, String.ofList pattern, Text.trim (line.getD "")⟩, ?_⟩
      rw [parse?_eq_some_iff]
      exact ⟨a, b, c, by rw [text, String.toList_ofList], ha, hb, hc, rfl⟩
  · intro line r read
    obtain ⟨-, -, -, -, -, -, -, kept⟩ := parse?_eq_some_iff.1 read
    rw [kept, Ruling.parse?_trim, read]
  · intro action target pattern method known trim
    rw [parse?_eq_some_iff, Option.getD_some, Text.trim, String.toList_ofList,
      trimmed_opening_append action method target trim]
    exact writes_opening_append action known target pattern

/-- A rule with a capital letter between blanks that are not all spaces, and a pattern
that begins with a blank and ends with none. -/
theorem parse_between_blanks :
    parse? (some "\u2003-Rd: ^a\u0085") =
      some ⟨.remove, .plainRegex, .directory, " ^a", "-Rd: ^a"⟩ ∧
    parse? (some "-Rd: ^a") = some ⟨.remove, .plainRegex, .directory, " ^a", "-Rd: ^a"⟩ ∧
    Method.wildcard ∈ [Method.wildcard, .plainRegex] ∧
    Text.trimEnd [' ', '*', '\u200b'] = [' ', '*', '\u200b'] ∧
    parse? (some "+wf: *\u200b") = some ⟨.add, .wildcard, .file, " *\u200b", "+wf: *\u200b"⟩ := by
  have read : parse? (some "\u2003-Rd: ^a\u0085") =
      some ⟨.remove, .plainRegex, .directory, " ^a", "-Rd: ^a"⟩ := by decide +kernel
  have known : Method.wildcard ∈ [Method.wildcard, .plainRegex] := by decide
  have trim : Text.trimEnd [' ', '*', '\u200b'] = [' ', '*', '\u200b'] := by decide
  exact ⟨read, parse_follows_grammar.2.2.1 _ _ read, known, trim,
    parse_follows_grammar.2.2.2 .add .file _ .wildcard known trim⟩

end TreeSift.Rule
