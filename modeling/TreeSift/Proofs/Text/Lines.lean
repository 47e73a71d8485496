/-
  TreeSift.Proofs.Text.Lines — cutting a text into lines.

  The lines of a text come out the same when its carriage returns are written as
  line feeds first (`lines_plainBreaks`), and cutting a text in two where a line ends
  cuts its list of lines in two (`lines_append`). A carriage return and the line feed
  after it are one break: between them no line ends. The cutter finds the only way in
  which breaks cut a text (`breaksInto_iff`).

    §1 The cutter  `linesFrom_break`, `linesFrom_other`, `linesFrom_append_complete`
    §2 Plain text  `plainBreaksFrom_append`, `lines_plainBreaks`
    §3 Two texts   `LineEnd`, `lines_append`
    §4 Breaks      `BreaksInto`, `breaksInto_iff`
-/
import TreeSift.Text.Line

namespace TreeSift.Text

/-! ## §1 The cutter -/

theorem linesFrom_nil (complete : List String) (line : List Char) :
    linesFrom complete line [] =
      if line.isEmpty then complete else String.ofList line.reverse :: complete := by
  rw [linesFrom]

theorem linesFrom_pair (complete : List String) (line rest : List Char) :
    linesFrom complete line ('\r' :: '\n' :: rest) =
      linesFrom (String.ofList line.reverse :: complete) [] rest := by
  rw [linesFrom]

theorem linesFrom_break {c : Char} (h : isLineBreak c = true) (complete : List String)
    (line : List Char) {rest : List Char} (single : c = '\r' → rest.head? ≠ some '\n') :
    linesFrom complete line (c :: rest) =
      linesFrom (String.ofList line.reverse :: complete) [] rest := by
  rw [linesFrom, if_pos h]
  rintro more rfl rfl
  exact single rfl rfl

theorem linesFrom_feed (complete : List String) (line rest : List Char) :
    linesFrom complete line ('\n' :: rest) =
      linesFrom (String.ofList line.reverse :: complete) [] rest :=
  linesFrom_break (by decide) complete line fun no => absurd no (by decide)

theorem linesFrom_other {c : Char} (h : isLineBreak c = false) (complete : List String)
    (line rest : List Char) :
    linesFrom complete line (c :: rest) = linesFrom complete (c :: line) rest := by
  rw [linesFrom, if_neg (by simp [h])]
  rintro more rfl rfl
  exact absurd h (by decide)

theorem head?_ne_of_not_pair {c : Char} {rest : List Char}
    (h : ∀ more, c = '\r' → rest = '\n' :: more → False) :
    c = '\r' → rest.head? ≠ some '\n' := by
  intro hc hrest
  obtain ⟨more, rfl⟩ := List.head?_eq_some_iff.1 hrest
  exact h more hc rfl

/-- Lines that are complete stay below those that come. -/
theorem linesFrom_append_complete (kept complete : List String) (line cs : List Char) :
    linesFrom (complete ++ kept) line cs = linesFrom complete line cs ++ kept := by
  induction complete, line, cs using linesFrom.induct with
  | case1 complete line empty => rw [linesFrom_nil, linesFrom_nil, if_pos empty, if_pos empty]
  | case2 complete line some => rw [linesFrom_nil, linesFrom_nil, if_neg some, if_neg some]; rfl
  | case3 complete line rest ih => rw [linesFrom_pair, linesFrom_pair, ← ih]; rfl
  | case4 complete line c rest notPair h ih =>
    have single := head?_ne_of_not_pair notPair
    rw [linesFrom_break h _ _ single, linesFrom_break h _ _ single, ← ih]
    rfl
  | case5 complete line c rest notPair h ih =>
    rw [linesFrom_other (by simpa using h), linesFrom_other (by simpa using h), ih]

/-! ## §2 Plain text -/

theorem plainBreaksFrom_append (kept done cs : List Char) :
    plainBreaksFrom (done ++ kept) cs = kept.reverse ++ plainBreaksFrom done cs := by
  induction done, cs using plainBreaksFrom.induct with
  | case1 done => simp [plainBreaksFrom]
  | case2 done rest ih => rw [plainBreaksFrom, plainBreaksFrom, ← ih]; rfl
  | case3 done rest alone ih =>
    rw [plainBreaksFrom, plainBreaksFrom, ← ih]
    · rfl
    · exact alone
    · exact alone
  | case4 done c rest _ other ih =>
    rw [plainBreaksFrom, plainBreaksFrom, ← ih]
    · rfl
    all_goals simp_all

theorem plainBreaksFrom_cons (c : Char) (rest : List Char) :
    plainBreaksFrom [c] rest = c :: plainBreaksFrom [] rest :=
  plainBreaksFrom_append [c] [] rest

/-- The cutter cuts plain text where it cuts the text. -/
theorem linesFrom_plainBreaksFrom (complete : List String) (line cs : List Char) :
    linesFrom complete line (plainBreaksFrom [] cs) = linesFrom complete line cs := by
  induction complete, line, cs using linesFrom.induct with
  | case1 complete line _ => rfl
  | case2 complete line _ => rfl
  | case3 complete line rest ih =>
    rw [plainBreaksFrom, plainBreaksFrom_cons, linesFrom_pair, linesFrom_feed, ih]
  | case4 complete line c rest notPair h ih =>
    have single := head?_ne_of_not_pair notPair
    rw [linesFrom_break h _ _ single]
    by_cases hc : c = '\r'
    · subst hc
      rw [plainBreaksFrom, plainBreaksFrom_cons, linesFrom_feed, ih]
      exact fun more => notPair more rfl
    · rw [plainBreaksFrom, plainBreaksFrom_cons, linesFrom_break h _ _ fun he => absurd he hc, ih]
      all_goals simp_all
  | case5 complete line c rest _ h ih =>
    have other : isLineBreak c = false := by simpa using h
    have hc : c ≠ '\r' := by
      rintro rfl
      exact absurd other (by decide)
    rw [plainBreaksFrom, plainBreaksFrom_cons, linesFrom_other other, linesFrom_other other, ih]
    all_goals simp_all

/-- Writing line feeds for carriage returns changes no line. -/
theorem lines_plainBreaks (s : String) : lines (plainBreaks s) = lines s := by
  rw [lines, lines, plainBreaks, String.toList_ofList, linesFrom_plainBreaksFrom]

/-! ## §3 Two texts -/

/-- A line ends between two texts: the first is empty or ends with a break, and that
break is not a carriage return to which a line feed belongs. -/
structure LineEnd (first second : List Char) : Prop where
  ends : ∀ c, first.getLast? = some c → isLineBreak c = true
  whole : first.getLast? = some '\r' → second.head? ≠ some '\n'

theorem getLast?_cons_of_some {c d : Char} {rest : List Char} (h : rest.getLast? = some d) :
    (c :: rest).getLast? = some d := by
  cases rest with
  | nil => exact absurd h (by simp)
  | cons e more => exact h

/-- What comes after the first character of a text ends where the text ends. -/
theorem LineEnd.tail {c : Char} {rest second : List Char} (h : LineEnd (c :: rest) second) :
    LineEnd rest second :=
  ⟨fun d hd => h.ends d (getLast?_cons_of_some hd), fun hd => h.whole (getLast?_cons_of_some hd)⟩

/-- Where a line ends, the cutter starts afresh. -/
theorem linesFrom_append {second : List Char} (complete : List String) (line first : List Char)
    (ended : LineEnd first second) (started : first = [] → line = []) :
    linesFrom complete line (first ++ second) =
      linesFrom (linesFrom complete line first) [] second := by
  induction complete, line, first using linesFrom.induct with
  | case1 complete line _ =>
    obtain rfl := started rfl
    rfl
  | case2 complete line some =>
    obtain rfl := started rfl
    exact absurd rfl some
  | case3 complete line rest ih =>
    rw [List.cons_append, List.cons_append, linesFrom_pair, linesFrom_pair]
    exact ih ended.tail.tail fun _ => rfl
  | case4 complete line c rest notPair h ih =>
    have single := head?_ne_of_not_pair notPair
    have singleHere : c = '\r' → (rest ++ second).head? ≠ some '\n' := by
      rintro rfl
      cases rest with
      | nil => exact ended.whole rfl
      | cons d more => exact single rfl
    rw [List.cons_append, linesFrom_break h _ _ singleHere, linesFrom_break h _ _ single]
    exact ih ended.tail fun _ => rfl
  | case5 complete line c rest _ h ih =>
    have other : isLineBreak c = false := by simpa using h
    rw [List.cons_append, linesFrom_other other, linesFrom_other other]
    refine ih ended.tail fun none => ?_
    subst none
    exact absurd (ended.ends c rfl) h

/-- The lines of two texts between which a line ends are those of both. -/
theorem lines_append {first second : String} (ended : LineEnd first.toList second.toList) :
    lines (first ++ second) = lines first ++ lines second := by
  rw [lines, lines, lines, String.toList_append, linesFrom_append _ _ _ ended fun _ => rfl]
  rw [← List.nil_append (linesFrom [] [] first.toList), linesFrom_append_complete,
    List.reverse_append, List.nil_append]

/-! ## §4 Breaks -/

/-- A text cut at its breaks: no line has a break in it, and each has one after it except
perhaps the last, which has none and is not empty. A carriage return and the line feed after
it are one break. -/
inductive BreaksInto : List Char → List String → Prop
  | nothing : BreaksInto [] []
  | last {line : List Char} (some : line ≠ []) (whole : ∀ c ∈ line, isLineBreak c = false) :
      BreaksInto line [String.ofList line]
  | pair {line rest : List Char} {ls : List String} (whole : ∀ c ∈ line, isLineBreak c = false)
      (others : BreaksInto rest ls) :
      BreaksInto (line ++ '\r' :: '\n' :: rest) (String.ofList line :: ls)
  | single {line rest : List Char} {c : Char} {ls : List String}
      (whole : ∀ c ∈ line, isLineBreak c = false) (breaks : isLineBreak c = true)
      (alone : c = '\r' → rest.head? ≠ some '\n') (others : BreaksInto rest ls) :
      BreaksInto (line ++ c :: rest) (String.ofList line :: ls)

/-- The cutter cuts at breaks. -/
theorem breaksInto_linesFrom (complete : List String) (line cs : List Char)
    (whole : ∀ c ∈ line, isLineBreak c = false) :
    ∃ ls, linesFrom complete line cs = ls.reverse ++ complete ∧
      BreaksInto (line.reverse ++ cs) ls := by
  have turned : ∀ {line : List Char}, (∀ c ∈ line, isLineBreak c = false) →
      ∀ c ∈ line.reverse, isLineBreak c = false :=
    fun whole c hc => whole c (List.mem_reverse.1 hc)
  induction complete, line, cs using linesFrom.induct with
  | case1 complete line empty =>
    obtain rfl := List.isEmpty_iff.1 empty
    exact ⟨[], rfl, .nothing⟩
  | case2 complete line some =>
    have some : line.reverse ≠ [] := by simpa using some
    rw [linesFrom_nil, if_neg (by simpa using some), List.append_nil]
    exact ⟨[String.ofList line.reverse], rfl, .last some (turned whole)⟩
  | case3 complete line rest ih =>
    obtain ⟨ls, lines, others⟩ := ih (by simp)
    refine ⟨String.ofList line.reverse :: ls, ?_, .pair (turned whole) others⟩
    rw [linesFrom_pair, lines, List.reverse_cons, List.append_assoc, List.singleton_append]
  | case4 complete line c rest notPair h ih =>
    have alone := head?_ne_of_not_pair notPair
    obtain ⟨ls, lines, others⟩ := ih (by simp)
    refine ⟨String.ofList line.reverse :: ls, ?_, .single (turned whole) h alone others⟩
    rw [linesFrom_break h _ _ alone, lines, List.reverse_cons, List.append_assoc,
      List.singleton_append]
  | case5 complete line c rest notPair h ih =>
    have other : isLineBreak c = false := by simpa using h
    obtain ⟨ls, lines, others⟩ := ih (by simpa [other] using whole)
    refine ⟨ls, ?_, by simpa using others⟩
    rw [linesFrom_other other, lines]

theorem linesFrom_whole {line : List Char} (whole : ∀ c ∈ line, isLineBreak c = false)
    (complete : List String) (begun rest : List Char) :
    linesFrom complete begun (line ++ rest) = linesFrom complete (line.reverse ++ begun) rest := by
  induction line generalizing begun with
  | nil => rfl
  | cons c line ih =>
    rw [List.cons_append, linesFrom_other (whole c List.mem_cons_self),
      ih (fun d hd => whole d (List.mem_cons_of_mem _ hd)), List.reverse_cons, List.append_assoc,
      List.singleton_append]

/-- However breaks cut a text, the cutter cuts it so. -/
theorem linesFrom_of_breaksInto {cs : List Char} {ls : List String} (h : BreaksInto cs ls)
    (complete : List String) : linesFrom complete [] cs = ls.reverse ++ complete := by
  induction h generalizing complete with
  | nothing => rfl
  | @last line some whole =>
    rw [← List.append_nil line, linesFrom_whole whole, linesFrom_nil, if_neg (by simpa using some)]
    simp
  | @pair line rest ls whole others ih =>
    rw [linesFrom_whole whole, linesFrom_pair, ih]
    simp
  | @single line rest c ls whole breaks alone others ih =>
    rw [linesFrom_whole whole, linesFrom_break breaks _ _ alone, ih]
    simp

/-- The lines of a text are what its breaks cut it into, and nothing else is. -/
theorem breaksInto_iff {s : String} {ls : List String} : BreaksInto s.toList ls ↔ lines s = ls := by
  constructor
  · intro h
    rw [lines, linesFrom_of_breaksInto h]
    simp
  · rintro rfl
    obtain ⟨ls, cut, breaks⟩ := breaksInto_linesFrom [] [] s.toList (by simp)
    rw [lines, cut, List.append_nil, List.reverse_reverse]
    exact breaks

end TreeSift.Text
