/-
  TreeSift.Proofs.Rules.Effects — what carrying out rules does to what is gathered.

  A rule changes the set of its own target by what its search finds, and nothing
  else; a search that fails changes nothing. Without a custom rule, the lines of
  a list therefore act on the set of a target as the rules for this target do, in
  order (`gathered_runLines`), and whether they succeed depends on the searches
  alone, not on what has been gathered before (`runLines_fst_congr`).

    §1 Rules   `Rule.effect`, `gathered_apply`
    §2 Lines   `Ruling.processed`, `Ruling.rulesFor`, `gathered_runLines`
    §3 Lists   `checkPlace`, `run_some`, `run_eq_ok`, `run_fst_congr`
-/
import TreeSift.Proofs.Search.Candidates
import TreeSift.Proofs.Text.Blank
import TreeSift.Rules.Run

namespace TreeSift

variable {σ : Type}

/-! ## §1 Rules -/

namespace Rule

/-- What a rule makes of the set of its target. -/
def effect (t : Tree) (root : String) (kept : PathSet) (r : Rule) : PathSet :=
  match search t r.method (r.request root) with
  | .error _ => kept
  | .ok found =>
    match r.action with
    | .add => kept.insertAll found.paths.toList
    | .remove => kept.eraseAll found.paths.toList

theorem gathered_gather (r : Rule) (paths : PathSet) (s : Session σ) (target : Target) :
    (r.gather paths s).gathered target =
      if r.target = target then
        match r.action with
        | .add => (s.gathered target).insertAll paths.toList
        | .remove => (s.gathered target).eraseAll paths.toList
      else s.gathered target := by
  unfold gather
  by_cases ht : r.target = target
  · subst ht
    rw [if_pos rfl]
    cases r.action with
    | add => exact s.gathered_modifyGathered_self r.target _
    | remove => exact s.gathered_modifyGathered_self r.target _
  · rw [if_neg ht]
    cases r.action with
    | add => exact s.gathered_modifyGathered_ne _ (Ne.symm ht)
    | remove => exact s.gathered_modifyGathered_ne _ (Ne.symm ht)

/-- The journal holds nothing that is gathered. -/
theorem gathered_journal (s : Session σ) (journal : Journal) (target : Target) :
    Session.gathered { s with journal } target = s.gathered target := by
  cases target <;> rfl

/-- A rule acts on the set of its target, and on no other. -/
theorem gathered_apply (r : Rule) (t : Tree) (root : String) (s : Session σ) (target : Target) :
    (r.apply t root s).2.gathered target =
      if r.target = target then r.effect t root (s.gathered target) else s.gathered target := by
  unfold apply searchRecorded effect
  cases search t r.method (r.request root) with
  | error e => simp [gathered_journal]
  | ok found =>
    simp only [gathered_journal, gathered_gather]

/-- Whether a rule succeeds is up to its search. -/
theorem apply_fst (r : Rule) (t : Tree) (root : String) (s : Session σ) :
    (r.apply t root s).1 = (search t r.method (r.request root)).map fun _ => () := by
  unfold apply searchRecorded
  cases search t r.method (r.request root) <;> rfl

end Rule

/-! ## §2 Lines -/

namespace Ruling

/-- The lines of a list that a run comes to when nothing fails. -/
def processed (g : Ruling σ) (lines : List (Option String)) : List (Option String) :=
  if g.haltOnBlank then lines.takeWhile fun raw => !isIgnorable (Text.trim (raw.getD ""))
  else lines

/-- The rules for a target among the lines that a run comes to. -/
def rulesFor (g : Ruling σ) (target : Target) (lines : List (Option String)) : List Rule :=
  ((g.processed lines).filterMap Rule.parse?).filter (·.target = target)

theorem processed_cons (g : Ruling σ) (raw : Option String) (rest : List (Option String)) :
    g.processed (raw :: rest) =
      if isIgnorable (Text.trim (raw.getD "")) && g.haltOnBlank then []
      else raw :: g.processed rest := by
  unfold processed
  cases g.haltOnBlank with
  | false => simp
  | true => cases hi : isIgnorable (Text.trim (raw.getD "")) <;> simp [hi]

/-- A line that says nothing is no rule. -/
theorem parse?_of_ignorable {raw : Option String}
    (h : isIgnorable (Text.trim (raw.getD "")) = true) : Rule.parse? raw = none := by
  unfold isIgnorable Text.trim at h
  rw [String.toList_ofList] at h
  unfold Rule.parse?
  split at h
  · rename_i hempty
    rw [hempty]
    rfl
  · rename_i c rest hline
    obtain rfl := beq_iff_eq.1 h
    rw [hline]
    unfold Rule.ofTrimmed?
    split
    · rename_i sign a b c pattern heq
      obtain ⟨rfl, -⟩ := List.cons.inj heq
      rfl
    · rfl

/-- That a line has been trimmed does not matter for the rule that it writes. -/
theorem parse?_trim (raw : Option String) :
    Rule.parse? (some (Text.trim (raw.getD ""))) = Rule.parse? raw := by
  unfold Rule.parse?
  rw [Option.getD_some, Text.trim, String.toList_ofList, Text.trimmed_trimmed]

theorem rulesFor_cons (g : Ruling σ) (target : Target) (raw : Option String)
    (rest : List (Option String)) :
    g.rulesFor target (raw :: rest) =
      if isIgnorable (Text.trim (raw.getD "")) && g.haltOnBlank then []
      else (Rule.parse? raw).toList.filter (·.target = target) ++ g.rulesFor target rest := by
  unfold rulesFor
  rw [processed_cons]
  split
  · rfl
  · rw [List.filterMap_cons]
    cases Rule.parse? raw with
    | none => rfl
    | some r => by_cases ht : r.target = target <;> simp [ht]

variable {g : Ruling σ} {t : Tree} {root : String}

/-- Without a custom rule, a line does what the rule does that it writes, if any. -/
theorem gathered_runLine (noCustom : g.custom = none) (raw : Option String) (s : Session σ)
    (target : Target) :
    (g.runLine t root (Text.trim (raw.getD "")) s).2.gathered target =
      ((Rule.parse? raw).toList.filter (·.target = target)).foldl (Rule.effect t root)
        (s.gathered target) := by
  unfold runLine
  rw [parse?_trim]
  cases Rule.parse? raw with
  | none =>
    simp only [delegate, noCustom]
    exact Rule.gathered_journal s _ target
  | some r =>
    dsimp only
    rw [Rule.gathered_apply]
    by_cases ht : r.target = target <;> simp [ht]

/-- Without a custom rule, whether a line succeeds does not depend on the session. -/
theorem runLine_fst_congr (noCustom : g.custom = none) (line : String) (s u : Session σ) :
    (g.runLine t root line s).1 = (g.runLine t root line u).1 := by
  unfold runLine
  cases Rule.parse? (some line) with
  | none => simp only [delegate, noCustom]
  | some r => exact (r.apply_fst t root s).trans (r.apply_fst t root u).symm

/-- A run over lines that succeeds has carried out the rules among them in order. -/
theorem gathered_runLines (noCustom : g.custom = none) {lines : List (Option String)}
    {s s' : Session σ} (ran : g.runLines t root lines s = (.ok (), s')) (target : Target) :
    s'.gathered target =
      (g.rulesFor target lines).foldl (Rule.effect t root) (s.gathered target) := by
  induction lines generalizing s with
  | nil =>
    obtain rfl := (Prod.mk.inj ran).2
    simp [rulesFor, processed]
  | cons raw rest ih =>
    rw [runLines] at ran
    rw [rulesFor_cons]
    split at ran
    · rename_i silent
      rw [silent, Bool.true_and]
      split at ran
      · rename_i halt
        obtain rfl := (Prod.mk.inj ran).2
        rw [if_pos halt]
        exact Rule.gathered_journal s _ target
      · rename_i halt
        rw [if_neg halt, parse?_of_ignorable silent]
        exact ih ran
    · rename_i speaks
      have here : (g.runLine t root (Text.trim (raw.getD "")) s).2.gathered target = _ :=
        gathered_runLine noCustom raw s target
      split at ran
      · exact absurd (Prod.mk.inj ran).1 (by simp)
      · rename_i next hnext
        rw [hnext] at here
        rw [if_neg (by simp [speaks]), List.foldl_append, ← here]
        exact ih ran

/-- Without a custom rule, whether a run succeeds does not depend on the session. -/
theorem runLines_fst_congr (noCustom : g.custom = none) (lines : List (Option String))
    (s u : Session σ) : (g.runLines t root lines s).1 = (g.runLines t root lines u).1 := by
  induction lines generalizing s u with
  | nil => rfl
  | cons raw rest ih =>
    rw [runLines, runLines]
    split
    · split
      · rfl
      · exact ih s u
    · have same : (g.runLine t root (Text.trim (raw.getD "")) s).1 = _ :=
        runLine_fst_congr noCustom _ s u
      cases hs : g.runLine t root (Text.trim (raw.getD "")) s with
      | mk rs s' =>
        cases hu : g.runLine t root (Text.trim (raw.getD "")) u with
        | mk ru u' =>
          rw [hs, hu] at same
          obtain rfl : rs = ru := same
          cases rs with
          | error e => rfl
          | ok => exact ih s' u'

/-! ## §3 Lists -/

end Ruling

namespace Session

/-- The session in which lines are carried out: every record shows the root. -/
def entering (s : Session σ) (root : String) : Session σ :=
  { s with journal := (s.journal.obtain programName).2.push [("root", .text root)] }

/-- The session without the frame that was pushed last. -/
def leaving (s : Session σ) : Session σ := { s with journal := s.journal.pop }

end Session

namespace Ruling

variable {g : Ruling σ} {t : Tree} {root : String}

/-- The check of the place alone. -/
def checkPlace (t : Tree) (place : Option Root) : Except Failure String := do
  checkRoot t (← (required "root" place).mapError .search)

/-- Where there are rules, all that is checked is the place. -/
theorem check_some (place : Option Root) (rules : RuleList) :
    check t place (some rules) = (·, rules) <$> checkPlace t place := by
  cases place with
  | none => rfl
  | some place => cases h : checkRoot t place <;> simp [check, checkPlace, required, h,
      Fallible.pure_eq_ok]

/-- What has been checked is what was given. -/
theorem check_eq_ok {place : Option Root} {rules : Option RuleList} {list : RuleList}
    (h : check t place rules = .ok (root, list)) :
    place = some (.path root) ∧ rules = some list ∧ checkRoot t (.path root) = .ok root := by
  cases place with
  | none => exact absurd h (by simp [check, required])
  | some place =>
    cases rules with
    | none => exact absurd h (by simp [check, required])
    | some given =>
      obtain ⟨checked, hroot, hpair⟩ : ∃ checked, checkRoot t place = .ok checked ∧
          (.ok (checked, given) : Except Failure _) = .ok (root, list) := Fallible.bind_eq_ok.1 h
      obtain ⟨rfl, rfl⟩ := Prod.mk.inj (Except.ok.inj hpair)
      cases place with
      | notAPath => exact absurd hroot (by simp [checkRoot])
      | path path =>
        obtain rfl := (checkRoot_eq_ok hroot).1
        exact ⟨rfl, rfl, hroot⟩

/-- A run of rules that are there checks the place and then carries them out. -/
theorem run_some (g : Ruling σ) (place : Option Root) (rules : RuleList) (s : Session σ) :
    g.run t place (some rules) s =
      match checkPlace t place with
      | .error e => (.error e, s)
      | .ok root => g.runBelow t root rules s := by
  rw [run, check_some]
  cases checkPlace t place <;> rfl

/-- What a run makes of the lines, between pushing the root and dropping it. -/
theorem runBelow_eq (g : Ruling σ) (t : Tree) (root : String) (rules : RuleList) (s : Session σ) :
    g.runBelow t root rules s =
      ((g.runLines t root rules.toLines (s.entering root)).1,
        (g.runLines t root rules.toLines (s.entering root)).2.leaving) := rfl

/-- A run below a root that has been checked. -/
theorem run_of_checkPlace {place : Option Root} (valid : checkPlace t place = .ok root)
    (rules : RuleList) (s : Session σ) :
    g.run t place (some rules) s =
      ((g.runLines t root rules.toLines (s.entering root)).1,
        (g.runLines t root rules.toLines (s.entering root)).2.leaving) := by
  rw [run_some, valid]
  exact runBelow_eq g t root rules s

/-- The frame that a run pushes and drops does not touch what is gathered. -/
theorem gathered_entering (s : Session σ) (root : String) (target : Target) :
    (s.entering root).gathered target = s.gathered target := Rule.gathered_journal s _ target

theorem gathered_leaving (s : Session σ) (target : Target) :
    s.leaving.gathered target = s.gathered target := Rule.gathered_journal s _ target

/-- A run that succeeds has checked the root and carried out the lines. -/
theorem run_eq_ok {rules : RuleList} {s s' : Session σ}
    (ran : g.run t (some (.path root)) (some rules) s = (.ok (), s')) :
    checkRoot t (.path root) = .ok root ∧
      ∃ u u' : Session σ, g.runLines t root rules.toLines u = (.ok (), u') ∧
        (∀ target, u.gathered target = s.gathered target) ∧
        ∀ target, s'.gathered target = u'.gathered target := by
  unfold run at ran
  cases hc : check t (some (.path root)) (some rules) with
  | error e =>
    rw [hc] at ran
    exact absurd (Prod.mk.inj ran).1 (by simp)
  | ok checked =>
    obtain ⟨kept, lines⟩ := checked
    obtain ⟨⟨⟩, ⟨⟩, hroot⟩ := check_eq_ok hc
    rw [hc] at ran
    obtain ⟨carried, rfl⟩ := Prod.mk.inj ((runBelow_eq g t root rules s).symm.trans ran)
    exact ⟨hroot, s.entering root, _, Prod.ext carried rfl, gathered_entering s root,
      gathered_leaving _⟩

/-- Without a custom rule, whether a list succeeds does not depend on the session. -/
theorem run_fst_congr (noCustom : g.custom = none) (place : Option Root)
    (rules : Option RuleList) (s u : Session σ) :
    (g.run t place rules s).1 = (g.run t place rules u).1 := by
  unfold run
  cases check t place rules with
  | error e => rfl
  | ok checked => exact runLines_fst_congr noCustom _ _ _

end Ruling

end TreeSift
