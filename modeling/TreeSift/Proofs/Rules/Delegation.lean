/-
  TreeSift.Proofs.Rules.Delegation — what is left to a custom rule.

  What a custom rule is handed can be told by listing it: a rule that does the same and
  also remembers each call (`CustomRule.listed`). Listing is not seen by a run
  (`unlisted_run`). A run that fails nowhere has handed over the lines that say
  something and write no rule, once each and in order (`handed_runLines`). At each of
  them the custom rule sees what the lines before it have made, and what it leaves is
  what the lines after it start from (`run_hands_over`).

    §1 Lines     `IsCustom`, `customLines`, `length_customLines`
    §2 Listing   `Handed`, `CustomRule.listed`, `unlisted_runLines`
    §3 Success   `runLines_succeeds`
    §4 Calls     `handed_runLines`, `handed_between`
    §5 Runs      `Ruling.handed`, `run_hands_over`
-/
import TreeSift.Proofs.Rules.Composition

namespace TreeSift

variable {σ : Type}

/-! ## §1 Lines -/

/-- A line that is left to the custom rule: it says something, and it writes no rule. -/
def IsCustom (raw : Option String) : Prop := ¬ SaysNothing raw ∧ Rule.parse? raw = none

instance : DecidablePred IsCustom := fun raw =>
  inferInstanceAs (Decidable (¬ SaysNothing raw ∧ Rule.parse? raw = none))

/-- The lines among those that a run comes to that are left to the custom rule, trimmed. -/
def Ruling.customLines (g : Ruling σ) (lines : List (Option String)) : List String :=
  ((g.processed lines).filter fun raw => IsCustom raw).map fun raw => Text.trim (raw.getD "")

theorem Ruling.customLines_cons (g : Ruling σ) (raw : Option String)
    (rest : List (Option String)) :
    g.customLines (raw :: rest) =
      if isIgnorable (Text.trim (raw.getD "")) && g.haltOnBlank then []
      else (if IsCustom raw then [Text.trim (raw.getD "")] else []) ++ g.customLines rest := by
  unfold customLines
  rw [processed_cons]
  split
  · rfl
  · by_cases custom : IsCustom raw <;> simp [custom]

/-- A run that halts at none of some lines comes to all of them. -/
theorem Ruling.processed_of_passes {g : Ruling σ} {lines : List (Option String)}
    (passes : g.haltOnBlank = true → ∀ raw ∈ lines, ¬ SaysNothing raw) :
    g.processed lines = lines := by
  unfold processed
  split
  · rename_i halts
    refine List.takeWhile_eq_self_iff.2 fun raw hraw => ?_
    rw [isIgnorable_eq_false (passes halts raw hraw)]
    rfl
  · rfl

theorem Ruling.length_customLines {g : Ruling σ} {lines : List (Option String)}
    (passes : g.haltOnBlank = true → ∀ raw ∈ lines, ¬ SaysNothing raw) :
    (g.customLines lines).length = lines.countP fun raw => IsCustom raw := by
  rw [customLines, processed_of_passes passes, List.length_map, List.countP_eq_length_filter]

/-! ## §2 Listing -/

/-- What a custom rule is handed: the root, the line, and the session as it stands. -/
structure Handed (σ : Type) where
  root : String
  line : String
  session : Session σ

namespace Session

/-- A session in which something else is remembered. -/
def remembering {τ : Type} (s : Session σ) (memory : τ) : Session τ :=
  ⟨s.files, s.directories, s.journal, memory⟩

/-- The session that the custom rule is handed for a line: it shows that the line is left to
the custom rule. -/
def delegating (s : Session σ) (line : String) : Session σ :=
  s.debug "Delegating custom rule" [("rule", .text line)]

/-- A session without the list of what has been handed over. -/
def unlisted (s : Session (σ × List (Handed σ))) : Session σ := s.remembering s.memory.1

end Session

/-- An outcome without the list of what has been handed over. -/
def Outcome.unlisted (o : Outcome (σ × List (Handed σ))) : Outcome σ := (o.1, o.2.unlisted)

/-- A custom rule that does the same, and lists what it is handed. -/
def CustomRule.listed (c : CustomRule σ) : CustomRule (σ × List (Handed σ)) :=
  fun root line s =>
    let left := c root line s.unlisted
    (left.1, left.2.remembering (left.2.memory, s.memory.2 ++ [⟨root, line, s.unlisted⟩]))

/-- The same lists of rules, with a custom rule that lists what it is handed. -/
def Ruling.listed (g : Ruling σ) : Ruling (σ × List (Handed σ)) :=
  ⟨g.haltOnBlank, g.custom.map CustomRule.listed⟩

/-- Rules do not see what is remembered, and leave it as it is. -/
theorem Rule.apply_remembering {τ : Type} (r : Rule) (t : Tree) (root : String) (s : Session σ)
    (memory : τ) :
    r.apply t root (s.remembering memory) =
      ((r.apply t root s).1, (r.apply t root s).2.remembering memory) := by
  unfold apply searchRecorded
  cases search t r.method (r.request root) with
  | error e => rfl
  | ok found =>
    dsimp only
    unfold gather
    cases r.action <;> cases r.target <;> rfl

theorem Rule.memory_apply (r : Rule) (t : Tree) (root : String) (s : Session σ) :
    (r.apply t root s).2.memory = s.memory := by
  have same := congrArg (fun o => o.2.memory) (r.apply_remembering t root s s.memory)
  exact same

namespace Ruling

variable {g : Ruling σ} {c : CustomRule σ} {t : Tree} {root : String}

theorem unlisted_runLine (t : Tree) (root line : String) (s : Session (σ × List (Handed σ))) :
    (g.listed.runLine t root line s).unlisted = g.runLine t root line s.unlisted := by
  unfold runLine
  cases Rule.parse? (some line) with
  | some r =>
    -- The rule is applied to the session without its list, which is put back afterwards.
    have rule := r.apply_remembering t root s.unlisted s.memory
    have memory := r.memory_apply t root s.unlisted
    dsimp only
    calc (r.apply t root s).unlisted
        = ((r.apply t root s.unlisted).1,
            (r.apply t root s.unlisted).2.remembering s.unlisted.memory) :=
          congrArg Outcome.unlisted rule
      _ = r.apply t root s.unlisted := by
          rw [← memory]
          rfl
  | none =>
    unfold delegate listed
    cases g.custom <;> rfl

/-- Listing is not seen by lines. -/
theorem unlisted_runLines (t : Tree) (root : String) (lines : List (Option String))
    (s : Session (σ × List (Handed σ))) :
    (g.listed.runLines t root lines s).unlisted = g.runLines t root lines s.unlisted := by
  have halts : g.listed.haltOnBlank = g.haltOnBlank := rfl
  induction lines generalizing s with
  | nil => rfl
  | cons raw rest ih =>
    rw [runLines, runLines, halts]
    split
    · split
      · rfl
      · exact ih s
    · have here := unlisted_runLine (g := g) t root (Text.trim (raw.getD "")) s
      rw [← here]
      cases g.listed.runLine t root (Text.trim (raw.getD "")) s with
      | mk result u =>
        cases result with
        | error e => rfl
        | ok => exact ih u

/-! ## §3 Success -/

/-- Lines succeed if the searches of all their rules do and the custom rule never fails. -/
theorem runLines_succeeds (custom : g.custom = some c) {lines : List (Option String)}
    (searches : ∀ raw ∈ g.processed lines, ∀ r, Rule.parse? raw = some r →
      ∃ f, search t r.method (r.request root) = .ok f)
    (calm : ∀ raw ∈ g.processed lines, IsCustom raw →
      ∀ u, (c root (Text.trim (raw.getD "")) u).1 = .ok ()) (s : Session σ) :
    (g.runLines t root lines s).1 = .ok () := by
  induction lines generalizing s with
  | nil => rfl
  | cons raw rest ih =>
    rw [processed_cons] at searches calm
    rw [runLines]
    split
    · rename_i silent
      split
      · rfl
      · rename_i goesOn
        rw [silent, Bool.true_and, if_neg goesOn] at searches calm
        exact ih (List.forall_mem_cons.1 searches).2 (List.forall_mem_cons.1 calm).2 s
    · rename_i speaks
      rw [if_neg (by simp [speaks])] at searches calm
      obtain ⟨search, searches⟩ := List.forall_mem_cons.1 searches
      obtain ⟨calmly, calm⟩ := List.forall_mem_cons.1 calm
      have here : (g.runLine t root (Text.trim (raw.getD "")) s).1 = .ok () := by
        unfold runLine
        rw [parse?_trim]
        cases written : Rule.parse? raw with
        | some r =>
          obtain ⟨f, found⟩ := search r written
          exact (r.apply_fst t root s).trans (by rw [found]; rfl)
        | none =>
          rw [isIgnorable_iff_saysNothing] at speaks
          simp only [delegate, custom]
          exact calmly ⟨speaks, written⟩ _
      split
      · rename_i failed
        rw [failed] at here
        exact absurd here (by simp)
      · exact ih searches calm _

/-! ## §4 Calls -/

/-- A line that writes no rule is listed, with the session that the lines before it have
left; nothing else is. -/
theorem handed_runLine (custom : g.custom = some c) (t : Tree) (root line : String)
    (s : Session (σ × List (Handed σ))) :
    (g.listed.runLine t root line s).2.memory.2 = s.memory.2 ++
      if Rule.parse? (some line) = none then
        [⟨root, line, s.unlisted.delegating line⟩]
      else [] := by
  unfold runLine
  cases Rule.parse? (some line) with
  | some r =>
    rw [if_neg (by simp), List.append_nil]
    exact congrArg Prod.snd (r.memory_apply t root s)
  | none =>
    rw [if_pos rfl]
    simp only [delegate, listed, custom]
    rfl

/-- Lines that succeed add to the list what is left to the custom rule, once each and in
order. -/
theorem handed_runLines (custom : g.custom = some c) {lines : List (Option String)}
    {s : Session (σ × List (Handed σ))} (ran : (g.listed.runLines t root lines s).1 = .ok ()) :
    ∃ more, (g.listed.runLines t root lines s).2.memory.2 = s.memory.2 ++ more ∧
      more.map (fun h => (h.root, h.line)) = (g.customLines lines).map (root, ·) := by
  have halts : g.listed.haltOnBlank = g.haltOnBlank := rfl
  induction lines generalizing s with
  | nil => exact ⟨[], (List.append_nil _).symm, by simp [customLines, processed]⟩
  | cons raw rest ih =>
    rw [runLines, halts] at ran ⊢
    rw [customLines_cons]
    split at ran
    · rename_i silent
      rw [if_pos silent, silent, Bool.true_and]
      have nothing : ¬ IsCustom raw := fun left =>
        left.1 ((isIgnorable_iff_saysNothing raw).1 silent)
      split at ran
      · rename_i halt
        rw [if_pos halt, if_pos halt]
        exact ⟨[], (List.append_nil _).symm, rfl⟩
      · rename_i goesOn
        rw [if_neg goesOn, if_neg goesOn, if_neg nothing]
        exact ih ran
    · rename_i speaks
      have left : IsCustom raw ↔ Rule.parse? (some (Text.trim (raw.getD ""))) = none := by
        rw [parse?_trim]
        exact and_iff_right (mt (isIgnorable_iff_saysNothing raw).2 speaks)
      have here := handed_runLine custom t root (Text.trim (raw.getD "")) s
      rw [if_neg speaks, if_neg (by simp [speaks])]
      cases hu : g.listed.runLine t root (Text.trim (raw.getD "")) s with
      | mk result u =>
        rw [hu] at ran here
        cases result with
        | error e => exact absurd ran (by simp)
        | ok =>
          obtain ⟨more, listed, lines⟩ := ih ran
          dsimp only at here ⊢
          rw [listed, here]
          by_cases h : IsCustom raw
          · rw [if_pos (left.1 h), if_pos h]
            exact ⟨⟨root, _, _⟩ :: more, List.append_assoc .., by simp [lines]⟩
          · rw [if_neg (mt left.2 h), if_neg h]
            exact ⟨more, by simp, by simp [lines]⟩

/-- At a line that is left to the custom rule, lines go on with what the custom rule
leaves. -/
theorem runLines_cons_of_isCustom (custom : g.custom = some c) {raw : Option String}
    (left : IsCustom raw) (rest : List (Option String)) (s : Session σ) :
    g.runLines t root (raw :: rest) s =
      Outcome.andThen (c root (Text.trim (raw.getD "")) (s.delegating (Text.trim (raw.getD ""))))
        (g.runLines t root rest) := by
  rw [runLines, if_neg (by simp [isIgnorable_eq_false left.1]), runLine, parse?_trim, left.2]
  simp only [delegate, custom]
  rfl

/-- Lines that begin with one that is left to the custom rule hand it over first. -/
theorem handed_cons_of_isCustom (custom : g.custom = some c) {raw : Option String}
    (left : IsCustom raw) {rest : List (Option String)} {s : Session (σ × List (Handed σ))}
    (ran : (g.listed.runLines t root (raw :: rest) s).1 = .ok ()) :
    ∃ v more, c root (Text.trim (raw.getD ""))
        (s.unlisted.delegating (Text.trim (raw.getD ""))) = (.ok (), v) ∧
      (g.listed.runLines t root (raw :: rest) s).2.memory.2 = s.memory.2 ++
        ⟨root, Text.trim (raw.getD ""), s.unlisted.delegating (Text.trim (raw.getD ""))⟩ ::
          more := by
  have listedRule : g.listed.custom = some c.listed := by simp [listed, custom]
  rw [runLines_cons_of_isCustom listedRule left] at ran ⊢
  unfold CustomRule.listed at ran ⊢
  have same : (s.delegating (Text.trim (raw.getD ""))).unlisted =
      s.unlisted.delegating (Text.trim (raw.getD "")) := rfl
  rw [same] at ran ⊢
  cases called : c root (Text.trim (raw.getD ""))
      (s.unlisted.delegating (Text.trim (raw.getD ""))) with
  | mk result v =>
    rw [called] at ran
    cases result with
    | error e => exact absurd ran (by simp [Outcome.andThen])
    | ok =>
      obtain ⟨more, grown, -⟩ := handed_runLines custom ran
      refine ⟨v, more, rfl, ?_⟩
      rw [Outcome.andThen, grown]
      exact List.append_assoc ..

/-- Where a line is left to the custom rule, it is handed over with the session that the
lines before it have left, and the lines after it start from what the custom rule leaves. -/
theorem handed_between (custom : g.custom = some c) {before after : List (Option String)}
    {raw : Option String}
    (passes : g.haltOnBlank = true → ∀ b ∈ before, ¬ SaysNothing b) (left : IsCustom raw)
    {s : Session (σ × List (Handed σ))}
    (ran : (g.listed.runLines t root (before ++ raw :: after) s).1 = .ok ()) :
    ∃ u v, g.runLines t root before s.unlisted = (.ok (), u) ∧
      (g.listed.runLines t root (before ++ raw :: after) s).2.memory.2[
          s.memory.2.length + before.countP fun b => IsCustom b]? =
        some ⟨root, Text.trim (raw.getD ""), u.delegating (Text.trim (raw.getD ""))⟩ ∧
      c root (Text.trim (raw.getD "")) (u.delegating (Text.trim (raw.getD ""))) = (.ok (), v) ∧
      g.runLines t root (before ++ raw :: after) s.unlisted = g.runLines t root after v := by
  have speaks : g.haltOnBlank = true → ∀ b ∈ before,
      isIgnorable (Text.trim (b.getD "")) = false :=
    fun halts b hb => isIgnorable_eq_false (passes halts b hb)
  rw [runLines_append_of_passes (g := g.listed) speaks] at ran ⊢
  rw [runLines_append_of_passes speaks]
  cases first : g.listed.runLines t root before s with
  | mk result u =>
    rw [first] at ran
    rw [← unlisted_runLines, first]
    cases result with
    | error e => exact absurd ran (by simp [Outcome.andThen])
    | ok =>
      rw [Outcome.andThen] at ran
      obtain ⟨more, grown, lines⟩ := handed_runLines custom (congrArg Prod.fst first)
      rw [first] at grown
      obtain ⟨v, later, called, handed⟩ := handed_cons_of_isCustom custom left ran
      -- What was listed up to here is one entry for each line that was left.
      have count : (s.memory.2 ++ more).length =
          s.memory.2.length + before.countP fun b => IsCustom b := by
        rw [← length_customLines passes, List.length_append,
          ← more.length_map fun h => (h.root, h.line), lines, List.length_map]
      refine ⟨u.unlisted, v, rfl, ?_, called, ?_⟩
      · rw [Outcome.andThen, handed, ← count, grown, List.getElem?_append_right (Nat.le_refl _),
          Nat.sub_self, List.getElem?_cons_zero]
      · rw [Outcome.unlisted, Outcome.andThen, runLines_cons_of_isCustom custom left, called,
          Outcome.andThen]

/-! ## §5 Runs -/

/-- All that the custom rule is handed in a run, in order. -/
def handed (g : Ruling σ) (t : Tree) (place : Option Root) (rules : RuleList) (s : Session σ) :
    List (Handed σ) :=
  (g.listed.run t place (some rules) (s.remembering (s.memory, []))).2.memory.2

/-- Listing is not seen by runs. -/
theorem unlisted_run (place : Option Root) (rules : RuleList) (s : Session σ) :
    (g.listed.run t place (some rules) (s.remembering (s.memory, []))).unlisted =
      g.run t place (some rules) s := by
  cases valid : checkPlace t place with
  | error e =>
    rw [run_some, run_some, valid]
    rfl
  | ok root =>
    rw [run_of_checkPlace valid, run_of_checkPlace valid]
    exact congrArg (fun o : Outcome σ => (o.1, o.2.leaving))
      (unlisted_runLines t root rules.toLines ((s.remembering (s.memory, [])).entering root))

/-- **The custom rule is handed the lines that are left to it, in order and in time.** Let the
place be a directory, let no search of a rule fail, and let the custom rule fail on no line
that is left to it. Then the run succeeds, and the custom rule is handed the lines that say
something and write no rule, once each and in order, trimmed and with the root; to list what
it is handed changes nothing else. At each of these lines the custom rule sees the sets and
the memory that a run of the lines before it leaves, and the lines after it go on with the
session that the custom rule leaves. -/
theorem run_hands_over (custom : g.custom = some c) {place : Option Root}
    (valid : checkPlace t place = .ok root) {rules : RuleList}
    (searches : ∀ raw ∈ g.processed rules.toLines, ∀ r, Rule.parse? raw = some r →
      ∃ f, search t r.method (r.request root) = .ok f)
    (calm : ∀ raw ∈ g.processed rules.toLines, IsCustom raw →
      ∀ u, (c root (Text.trim (raw.getD "")) u).1 = .ok ()) (s : Session σ) :
    (g.run t place (some rules) s).1 = .ok () ∧
    (g.listed.run t place (some rules) (s.remembering (s.memory, []))).unlisted =
      g.run t place (some rules) s ∧
    (g.handed t place rules s).map (fun h => (h.root, h.line)) =
      (g.customLines rules.toLines).map (root, ·) ∧
    ∀ before raw after, rules.toLines = before ++ raw :: after →
      (g.haltOnBlank = true → ∀ b ∈ before, ¬ SaysNothing b) → IsCustom raw →
      ∃ seen v,
        (g.handed t place rules s)[before.countP fun b => IsCustom b]? =
          some ⟨root, Text.trim (raw.getD ""), seen⟩ ∧
        Outcome.Alike (.ok (), seen) (g.run t place (some (.lines before)) s) ∧
        c root (Text.trim (raw.getD "")) seen = (.ok (), v) ∧
        g.run t place (some rules) s =
          ((g.runLines t root after v).1, (g.runLines t root after v).2.leaving) := by
  have ran : (g.runLines t root rules.toLines (s.entering root)).1 = .ok () :=
    runLines_succeeds custom searches calm _
  -- The run that lists starts from the same session, with nothing in its list.
  obtain ⟨start, hstart⟩ : ∃ start, (s.remembering (s.memory, [])).entering root = start :=
    ⟨_, rfl⟩
  have unlisted : start.unlisted = s.entering root := hstart ▸ rfl
  have listedRan : (g.listed.runLines t root rules.toLines start).1 = .ok () := by
    rw [← unlisted, ← unlisted_runLines] at ran
    exact ran
  have list : g.handed t place rules s =
      (g.listed.runLines t root rules.toLines start).2.memory.2 := by
    rw [handed, run_of_checkPlace valid, hstart]
    rfl
  have empty : start.memory.2 = [] := hstart ▸ rfl
  rw [run_of_checkPlace valid, list]
  refine ⟨ran, (unlisted_run place rules s).trans (run_of_checkPlace valid rules s), ?_, ?_⟩
  · obtain ⟨more, grown, lines⟩ := handed_runLines custom listedRan
    rw [grown, empty, List.nil_append, lines]
  · intro before raw after cut passes left
    rw [cut] at listedRan ⊢
    obtain ⟨u, v, first, handed, called, rest⟩ := handed_between custom passes left listedRan
    rw [empty, List.length_nil, Nat.zero_add] at handed
    rw [unlisted] at first rest
    refine ⟨u.delegating (Text.trim (raw.getD "")), v, handed, ?_, called, by rw [rest]⟩
    rw [run_of_checkPlace valid, RuleList.toLines, first]
    exact ⟨rfl, fun target => (Rule.gathered_journal u _ target).trans
      (Rule.gathered_journal u _ target).symm, rfl⟩

/-- A custom rule that notes each line, and then empties the sets or adds a file. -/
def clerk : CustomRule (List String) := fun root line s =>
  let noted := { s with memory := s.memory ++ [line] }
  if line = "!clear" then (.ok (), noted.reset none)
  else (.ok (), noted.addPaths .file [root ++ "/" ++ line])

/-- Lists of rules with this custom rule, in which blank lines are skipped. -/
def clerkRuling : Ruling (List String) := ⟨false, some clerk⟩

/-- Two lines for the custom rule, with a rule before, between and after them. -/
def clerkLines : List (Option String) :=
  [some "+wf:*", some " b\t", none, some "-wf:a", some "# c", some "!clear", some "+wf:A"]

/-- The second custom line sees the file that the first one has added, but not the one that a
rule has removed between them; the last rule starts from no file and finds that one again. -/
theorem run_noted_lines :
    (clerkRuling.run twinTree (some (.path "/r")) (some (.lines clerkLines))
      (.start .empty [])).1 = .ok () ∧
    (clerkRuling.handed twinTree (some (.path "/r")) (.lines clerkLines)
      (.start .empty [])).map (fun h => (h.root, h.line)) = [("/r", "b"), ("/r", "!clear")] ∧
    ∃ seen v,
      (clerkRuling.handed twinTree (some (.path "/r")) (.lines clerkLines)
        (.start .empty []))[1]? = some ⟨"/r", "!clear", seen⟩ ∧
      seen.files.toList = ["/r/b"] ∧ clerk "/r" "!clear" seen = (.ok (), v) ∧
      (clerkRuling.runLines twinTree "/r" [some "+wf:A"] v).2.files.toList = ["/r/a"] := by
  have valid : checkPlace twinTree (some (.path "/r")) = .ok "/r" := by decide +kernel
  have found : ∀ r ∈ (clerkRuling.processed clerkLines).filterMap Rule.parse?,
      (search twinTree r.method (r.request "/r")).toOption.isSome := by decide +kernel
  have searches : ∀ raw ∈ clerkRuling.processed (RuleList.lines clerkLines).toLines, ∀ r,
      Rule.parse? raw = some r → ∃ f, search twinTree r.method (r.request "/r") = .ok f := by
    intro raw hraw r written
    have succeeds := found r (List.mem_filterMap.2 ⟨raw, hraw, written⟩)
    cases hs : search twinTree r.method (r.request "/r") with
    | error e => simp [hs, Except.toOption] at succeeds
    | ok f => exact ⟨f, rfl⟩
  have calm : ∀ raw ∈ clerkRuling.processed (RuleList.lines clerkLines).toLines, IsCustom raw →
      ∀ u, (clerk "/r" (Text.trim (raw.getD "")) u).1 = .ok () := by
    intro raw _ _ u
    unfold clerk
    dsimp only
    split <;> rfl
  obtain ⟨succeeds, -, handed, moments⟩ :=
    run_hands_over (c := clerk) rfl valid searches calm (.start .empty [])
  obtain ⟨seen, v, there, alike, called, onward⟩ := moments (clerkLines.take 5) (some "!clear")
    [some "+wf:A"] rfl (fun halts => absurd halts (by decide)) (by decide +kernel)
  have lines : clerkRuling.customLines clerkLines = ["b", "!clear"] := by decide +kernel
  have before : (clerkRuling.run twinTree (some (.path "/r"))
      (some (.lines (clerkLines.take 5))) (.start .empty [])).2.files.toList = ["/r/b"] := by
    decide +kernel
  have whole : (clerkRuling.run twinTree (some (.path "/r")) (some (.lines clerkLines))
      (.start .empty [])).2.files.toList = ["/r/a"] := by decide +kernel
  refine ⟨succeeds, handed.trans (by rw [RuleList.toLines, lines]; rfl), seen, v, there, ?_,
    called, ?_⟩
  · rw [← before]
    exact congrArg PathSet.toList (alike.gathered .file)
  · rw [← whole, onward]
    rfl

end Ruling

end TreeSift
