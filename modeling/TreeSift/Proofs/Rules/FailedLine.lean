/-
  TreeSift.Proofs.Rules.FailedLine — a line that fails has no effect.

  Without a custom rule, a line fails just when it writes a rule whose search
  fails, and then the session stays as it is, whatever the search had found by
  then (`runLine_eq_error_iff`). A run that fails has a first line that does: the
  lines before it succeed, and the run ends there (`runLines_eq_error`). So the
  run leaves what these lines have gathered, and the line fails in the same way
  by itself (`run_failure_at_line`).

    §1 Lines   `Rule.apply_eq_error_iff`, `runLine_eq_error_iff`, `runLines_eq_error`
    §2 Lists   `run_failure_at_line`
-/
import TreeSift.Proofs.Rules.Effects

namespace TreeSift

variable {σ : Type} {t : Tree} {root : String}

/-! ## §1 Lines -/

/-- A rule fails as its search does, and does nothing else. -/
theorem Rule.apply_eq_error_iff {r : Rule} {s s' : Session σ} {e : Failure} :
    r.apply t root s = (.error e, s') ↔ search t r.method (r.request root) = .error e ∧ s' = s := by
  unfold apply searchRecorded
  cases search t r.method (r.request root) with
  | error f =>
    rw [Prod.mk.injEq, Except.error.injEq, Except.error.injEq]
    exact and_congr_right fun _ => eq_comm
  | ok found => simp

namespace Ruling

variable {g : Ruling σ}

/-- Without a custom rule, a line fails as the search of its rule does, and does
nothing else. -/
theorem runLine_eq_error_iff (noCustom : g.custom = none) {line : String} {s s' : Session σ}
    {e : Failure} :
    g.runLine t root line s = (.error e, s') ↔
      (∃ r, Rule.parse? (some line) = some r ∧ search t r.method (r.request root) = .error e) ∧
        s' = s := by
  unfold runLine
  cases Rule.parse? (some line) with
  | none => simp [delegate, noCustom]
  | some r => simp [Rule.apply_eq_error_iff]

/-- Lines that fail have a first one that does: those before it succeed, and it
fails in the session that they leave. -/
theorem runLines_eq_error {lines : List (Option String)} {s s' : Session σ} {e : Failure}
    (failed : g.runLines t root lines s = (.error e, s')) :
    ∃ before raw after s'', lines = before ++ raw :: after ∧
      g.runLines t root before s = (.ok (), s'') ∧
      isIgnorable (Text.trim (raw.getD "")) = false ∧
      g.runLine t root (Text.trim (raw.getD "")) s'' = (.error e, s') := by
  induction lines generalizing s with
  | nil => exact absurd (Prod.mk.inj failed).1 (by simp)
  | cons raw rest ih =>
    rw [runLines] at failed
    split at failed
    · rename_i silent
      split at failed
      · exact absurd (Prod.mk.inj failed).1 (by simp)
      · rename_i goesOn
        obtain ⟨before, line, after, s'', rfl, ran, speaks, here⟩ := ih failed
        refine ⟨raw :: before, line, after, s'', rfl, ?_, speaks, here⟩
        rw [runLines, if_pos silent, if_neg goesOn, ran]
    · rename_i speaks
      split at failed
      · rename_i f u here
        rw [failed] at here
        exact ⟨[], raw, rest, s, rfl, rfl, by simpa using speaks, here⟩
      · rename_i u here
        obtain ⟨before, line, after, s'', rfl, ran, speaks', failed⟩ := ih failed
        refine ⟨raw :: before, line, after, s'', rfl, ?_, speaks', failed⟩
        rw [runLines, if_neg speaks, here]
        exact ran

/-- A line that is carried out alone does what it does among others. -/
theorem runLines_singleton {raw : Option String}
    (speaks : isIgnorable (Text.trim (raw.getD "")) = false) (s : Session σ) :
    g.runLines t root [raw] s = g.runLine t root (Text.trim (raw.getD "")) s := by
  rw [runLines, if_neg (by simp [speaks])]
  split
  · rename_i here
    exact here.symm
  · rename_i here
    rw [here, runLines]

/-! ## §2 Lists -/

/-- Rules that are not there are refused. -/
theorem check_none (place : Option Root) : ∃ e, check t place none = .error e := by
  cases place with
  | none => exact ⟨_, rfl⟩
  | some place => exact ⟨_, rfl⟩

/-- **A line that fails has no effect and ends the run.** A run without a custom
rule that fails has either been refused when its arguments were checked, and then
nothing has changed, or there is a line that fails: the lines before it succeed
when they are carried out from the same session, what is gathered is what they
leave, member by member and in the same order, and the line alone fails in the
same way, and gathers nothing, in every session that has no custom rule. -/
theorem run_failure_at_line (noCustom : g.custom = none) {place : Option Root}
    {rules : Option RuleList} {s s' : Session σ} {e : Failure}
    (failed : g.run t place rules s = (.error e, s')) :
    (check t place rules = .error e ∧ ∀ target, s'.gathered target = s.gathered target) ∨
    ∃ list i raw, rules = some list ∧ list.toLines[i]? = some raw ∧
      (∃ s'', g.run t place (some (.lines (list.toLines.take i))) s = (.ok (), s'') ∧
        ∀ target, s'.gathered target = s''.gathered target) ∧
      ∀ {τ : Type} (h : Ruling τ) (u : Session τ), h.custom = none →
        ∃ u', h.run t place (some (.lines [raw])) u = (.error e, u') ∧
          ∀ target, u'.gathered target = u.gathered target := by
  cases hc : check t place rules with
  | error f =>
    rw [run, hc] at failed
    obtain ⟨rfl, rfl⟩ : f = e ∧ s = s' := by simpa using failed
    exact .inl ⟨rfl, fun _ => rfl⟩
  | ok checked =>
    right
    cases rules with
    | none =>
      obtain ⟨f, hf⟩ := check_none (t := t) place
      rw [hf] at hc
      exact absurd hc (by simp)
    | some list =>
      -- From here on the root is checked once and for all: it depends on the place alone.
      rw [check_some] at hc
      obtain ⟨root, hp, -⟩ := Fallible.map_eq_ok.1 hc
      have runs : ∀ {τ : Type} (h : Ruling τ) (rules : RuleList) (u : Session τ),
          h.run t place (some rules) u = h.runBelow t root rules u := by
        intro τ h rules u
        rw [run_some, hp]
      rw [runs, runBelow_eq] at failed
      obtain ⟨hfst, rfl⟩ := Prod.mk.inj failed
      obtain ⟨before, raw, after, s'', hlines, ran, speaks, here⟩ :=
        runLines_eq_error (Prod.ext hfst (Eq.refl (Prod.snd _)))
      obtain ⟨rule, unchanged⟩ := (runLine_eq_error_iff noCustom).1 here
      refine ⟨list, before.length, raw, rfl, by simp [hlines], ⟨s''.leaving, ?_, ?_⟩, ?_⟩
      · rw [runs, runBelow_eq, hlines, List.take_left, RuleList.toLines, ran]
      · exact fun target => congrArg (fun u => u.leaving.gathered target) unchanged
      · intro τ h u hcustom
        have alone : h.runLines t root [raw] (u.entering root) = (.error e, u.entering root) := by
          rw [runLines_singleton speaks]
          exact (runLine_eq_error_iff hcustom).2 ⟨rule, rfl⟩
        refine ⟨(u.entering root).leaving, ?_, fun target => ?_⟩
        · rw [runs, runBelow_eq, RuleList.toLines, alone]
        · rw [gathered_leaving, gathered_entering]

/-- A tree in which a walk finds a file and then a directory that cannot be listed. -/
def barredTree : Tree := .ofPlaces [("/r/a", .file), ("/r/d", .denied), ("/r/x/b", .file)]

/-- Rules of which the third line fails in the middle of a walk. -/
def barredRules : List (Option String) :=
  [some "+wf:?", none, some " +RF:B ", some "-wf:*"]

/-- A run of these rules in which nothing has been gathered before. -/
def barredRun : Outcome Unit :=
  run ⟨false, none⟩ barredTree (some (.path "/r")) (some (.lines barredRules)) (.start .empty ())

/-- The file that is found before the walk fails is not gathered, and the line
fails in a run that halts at blank lines as well. -/
theorem run_barred_walk :
    barredRun.1 = .error (.listing (.denied "/r/d")) ∧
    ∃ i raw, barredRules[i]? = some raw ∧
      (∃ s'' : Session Unit, run ⟨false, none⟩ barredTree (some (.path "/r"))
          (some (.lines (barredRules.take i))) (.start .empty ()) = (.ok (), s'') ∧
        s''.files.toList = ["/r/a"]) ∧
      ∃ u' : Session Nat, run ⟨true, none⟩ barredTree (some (.path "/r")) (some (.lines [raw]))
        (.start .empty 0) = (.error (.listing (.denied "/r/d")), u') := by
  have failed : barredRun.1 = .error (.listing (.denied "/r/d")) := by decide +kernel
  have files : barredRun.2.files.toList = ["/r/a"] := by decide +kernel
  refine ⟨failed, ?_⟩
  rcases run_failure_at_line rfl (Prod.ext failed rfl) with ⟨refused, -⟩ |
    ⟨list, i, raw, hlist, hraw, ⟨s'', ran, same⟩, alone⟩
  · exact absurd refused (by decide)
  · obtain rfl := Option.some.inj hlist
    obtain ⟨u', hu, -⟩ := alone (⟨true, none⟩ : Ruling Nat) (.start .empty 0) rfl
    refine ⟨i, raw, hraw, ⟨s'', ran, ?_⟩, u', hu⟩
    rw [← files]
    exact congrArg PathSet.toList (same .file).symm

end Ruling

end TreeSift
