/-
  TreeSift.Proofs.Rules.Composition — lists of rules one after the other.

  Where blank lines do not end a list, two lists in turn do what one list of all
  their lines does: the root is checked again and pushed again, but nothing of
  this can be seen afterwards, not even in the records (`runBelow_append`). Where
  blank lines do end a list, it does what its lines up to the first blank one or
  comment do (`run_halting_alike`).

    §1 Outcomes   `Outcome.andThen`, `Outcome.Alike`
    §2 Records    `CustomRule.OnlyRemembers`, `extends_runLines`
    §3 Two lists  `runLines_append`, `runBelow_append`
    §4 Halting    `SaysNothing`, `LongestSpoken`, `runLines_halting_alike`
    §5 Lists      `run_append_and_halt`
-/
import TreeSift.Proofs.Journal.Writing
import TreeSift.Proofs.Rules.Effects

namespace TreeSift

variable {σ : Type}

/-! ## §1 Outcomes -/

/-- Goes on with the session that an outcome leaves, unless it is a failure. -/
def Outcome.andThen (o : Outcome σ) (next : Session σ → Outcome σ) : Outcome σ :=
  match o with
  | (.error e, s) => (.error e, s)
  | (.ok (), s) => next s

/-- Two outcomes that differ in nothing but records. -/
structure Outcome.Alike (o p : Outcome σ) : Prop where
  result : o.1 = p.1
  gathered : ∀ target, o.2.gathered target = p.2.gathered target
  memory : o.2.memory = p.2.memory

theorem Outcome.Alike.refl (o : Outcome σ) : o.Alike o := ⟨rfl, fun _ => rfl, rfl⟩

/-! ## §2 Records -/

/-- A custom rule that does nothing but remember what it is given. -/
def CustomRule.OnlyRemembers (c : CustomRule σ) : Prop :=
  ∃ note : String → String → σ → σ, ∀ root line s,
    c root line s = (.ok (), { s with memory := note root line s.memory })

namespace Rule

theorem journal_gather (r : Rule) (paths : PathSet) (s : Session σ) :
    (r.gather paths s).journal = s.journal := by
  unfold gather
  cases r.action <;> cases r.target <;> rfl

/-- A rule adds records, if anything. -/
theorem extends_apply (r : Rule) (t : Tree) (root : String) {s : Session σ}
    (ready : s.journal.IsReady) : s.journal.Extends (r.apply t root s).2.journal := by
  unfold apply searchRecorded
  cases search t r.method (r.request root) with
  | error e => exact .refl _
  | ok found =>
    have first : s.journal.Extends (found.record r.method s.journal) := ready.debugShared _ _
    dsimp only
    rw [journal_gather]
    exact first.trans ((ready.of_extends first).debugShared _ _)

end Rule

namespace Ruling

variable {g : Ruling σ} {t : Tree} {root : String}

/-- A line adds records, if anything. -/
theorem extends_runLine (quiet : ∀ c ∈ g.custom, c.OnlyRemembers) (line : String) {s : Session σ}
    (ready : s.journal.IsReady) : s.journal.Extends (g.runLine t root line s).2.journal := by
  unfold runLine
  cases Rule.parse? (some line) with
  | some r => exact r.extends_apply t root ready
  | none =>
    have said : s.journal.Extends
        (s.debug "Delegating custom rule" [("rule", .text line)]).journal :=
      Journal.extends_write ..
    unfold delegate
    cases hc : g.custom with
    | none => exact said
    | some custom =>
      obtain ⟨note, hnote⟩ := quiet custom hc
      dsimp only
      rw [hnote]
      exact said

/-- Lines add records, if anything. -/
theorem extends_runLines (quiet : ∀ c ∈ g.custom, c.OnlyRemembers) (lines : List (Option String))
    {s : Session σ} (ready : s.journal.IsReady) :
    s.journal.Extends (g.runLines t root lines s).2.journal := by
  induction lines generalizing s with
  | nil => exact .refl _
  | cons raw rest ih =>
    rw [runLines]
    split
    · split
      · exact Journal.extends_write ..
      · exact ih ready
    · have here : s.journal.Extends (g.runLine t root (Text.trim (raw.getD "")) s).2.journal :=
        extends_runLine quiet _ ready
      split
      · rename_i hs
        rw [hs] at here
        exact here
      · rename_i hs
        rw [hs] at here
        exact here.trans (ih (ready.of_extends here))

/-! ## §3 Two lists -/

theorem ready_entering (s : Session σ) (root : String) : (s.entering root).journal.IsReady :=
  (Journal.isReady_obtain s.journal).push _

/-- To leave a run and enter the next one with the same root changes nothing, if
only records have been added in between. -/
theorem entering_leaving {s u : Session σ}
    (h : (s.entering root).journal.Extends u.journal) : u.leaving.entering root = u := by
  have ready : u.leaving.journal.IsReady := ((ready_entering s root).of_extends h).pop
  rw [Session.entering, ready.obtain]
  exact congrArg (fun journal => { u with journal }) (Journal.push_pop_of_extends h)

/-- More lines are carried out after the first ones, unless the run halts at one of these. -/
theorem runLines_append_of_passes {first : List (Option String)}
    (passes : g.haltOnBlank = true → ∀ raw ∈ first, isIgnorable (Text.trim (raw.getD "")) = false)
    (second : List (Option String)) (s : Session σ) :
    g.runLines t root (first ++ second) s =
      Outcome.andThen (g.runLines t root first s) (g.runLines t root second) := by
  induction first generalizing s with
  | nil => rfl
  | cons raw rest ih =>
    have onward := ih fun halts => (List.forall_mem_cons.1 (passes halts)).2
    rw [List.cons_append, runLines, runLines]
    split
    · rename_i silent
      have goesOn : ¬ g.haltOnBlank = true := fun halts =>
        absurd ((passes halts raw List.mem_cons_self).symm.trans silent) (by simp)
      rw [if_neg goesOn, if_neg goesOn]
      exact onward s
    · cases g.runLine t root (Text.trim (raw.getD "")) s with
      | mk result u =>
        cases result with
        | error e => rfl
        | ok => exact onward u

/-- Where blank lines do not end a list, more lines are carried out after the first ones. -/
theorem runLines_append (goesOn : g.haltOnBlank = false) (first second : List (Option String))
    (s : Session σ) :
    g.runLines t root (first ++ second) s =
      Outcome.andThen (g.runLines t root first s) (g.runLines t root second) :=
  runLines_append_of_passes (fun halts => absurd (goesOn.symm.trans halts) (by simp)) second s

/-- Two lists in turn do what all their lines do in one list, the records included. -/
theorem runBelow_append (goesOn : g.haltOnBlank = false)
    (quiet : ∀ c ∈ g.custom, c.OnlyRemembers) (first second : List (Option String))
    (s : Session σ) :
    g.runBelow t root (.lines (first ++ second)) s =
      Outcome.andThen (g.runBelow t root (.lines first) s)
        (g.runBelow t root (.lines second)) := by
  simp only [runBelow_eq, RuleList.toLines]
  rw [runLines_append goesOn]
  have added : (s.entering root).journal.Extends
      (g.runLines t root first (s.entering root)).2.journal :=
    extends_runLines quiet first (ready_entering s root)
  cases h : g.runLines t root first (s.entering root) with
  | mk result u =>
    rw [h] at added
    cases result with
    | error e => rfl
    | ok =>
      have again : u.leaving.entering root = u := entering_leaving added
      simp only [Outcome.andThen, runBelow_eq, RuleList.toLines, again]

end Ruling

/-! ## §4 Halting -/

/-- A line that says nothing: it is absent, or it is empty after trimming, or it
starts with a hash after trimming. -/
def SaysNothing (raw : Option String) : Prop :=
  raw = none ∨ ∃ text, raw = some text ∧
    (Text.trim text = "" ∨ (Text.trim text).toList.head? = some '#')

theorem isIgnorable_iff (line : String) :
    isIgnorable line = true ↔ line = "" ∨ line.toList.head? = some '#' := by
  unfold isIgnorable
  cases h : line.toList with
  | nil => simp [String.toList_eq_nil_iff.1 h]
  | cons c rest =>
    have ne : line ≠ "" := fun he => by simp [he] at h
    simp [ne]

theorem isIgnorable_iff_saysNothing (raw : Option String) :
    isIgnorable (Text.trim (raw.getD "")) = true ↔ SaysNothing raw := by
  cases raw with
  | none =>
    have blank : isIgnorable (Text.trim "") = true := by decide
    simp [SaysNothing, blank]
  | some text => simp [SaysNothing, isIgnorable_iff]

theorem isIgnorable_eq_false {raw : Option String} (speaks : ¬ SaysNothing raw) :
    isIgnorable (Text.trim (raw.getD "")) = false :=
  Bool.eq_false_iff.2 (mt (isIgnorable_iff_saysNothing raw).1 speaks)

instance : DecidablePred SaysNothing := fun raw =>
  decidable_of_iff _ (isIgnorable_iff_saysNothing raw)

/-- The longest beginning of some lines in which every line says something. -/
structure LongestSpoken (said lines : List (Option String)) : Prop where
  beginning : said <+: lines
  speaks : ∀ raw ∈ said, ¬ SaysNothing raw
  longest : ∀ other, other <+: lines → (∀ raw ∈ other, ¬ SaysNothing raw) →
    other.length ≤ said.length

theorem LongestSpoken.cons {raw : Option String} {said lines : List (Option String)}
    (speaks : ¬ SaysNothing raw) (h : LongestSpoken said lines) :
    LongestSpoken (raw :: said) (raw :: lines) := by
  refine ⟨(List.prefix_cons_inj raw).2 h.beginning, List.forall_mem_cons.2 ⟨speaks, h.speaks⟩, ?_⟩
  intro other hother spoken
  cases other with
  | nil => exact Nat.zero_le _
  | cons first more =>
    obtain ⟨rfl, hmore⟩ := List.cons_prefix_cons.1 hother
    exact Nat.succ_le_succ (h.longest more hmore (List.forall_mem_cons.1 spoken).2)

/-- Lines of which the first says nothing begin with no line that says something. -/
theorem longestSpoken_nil {lines : List (Option String)}
    (h : ∀ raw ∈ lines.head?, SaysNothing raw) : LongestSpoken [] lines := by
  refine ⟨List.nil_prefix, by simp, fun other hother spoken => ?_⟩
  cases other with
  | nil => exact Nat.le_refl 0
  | cons first more =>
    obtain ⟨rest, rfl⟩ := hother
    exact absurd (h first (by simp)) (spoken first List.mem_cons_self)

namespace Ruling

variable {t : Tree} {root : String} {custom : Option (CustomRule σ)}

/-- The lines that a halting run comes to are the longest beginning that speaks. -/
theorem longestSpoken_processed (lines : List (Option String)) :
    LongestSpoken ((⟨true, custom⟩ : Ruling σ).processed lines) lines := by
  induction lines with
  | nil => exact longestSpoken_nil (by simp)
  | cons raw rest ih =>
    rw [processed_cons, Bool.and_true]
    split
    · rename_i silent
      rw [isIgnorable_iff_saysNothing] at silent
      exact longestSpoken_nil (by simpa using silent)
    · rename_i speaks
      rw [isIgnorable_iff_saysNothing] at speaks
      exact ih.cons speaks

/-- What a line does does not depend on whether blank lines end a list. -/
theorem runLine_congr {g h : Ruling σ} (same : g.custom = h.custom) (line : String)
    (s : Session σ) : g.runLine t root line s = h.runLine t root line s := by
  unfold runLine delegate
  rw [same]

/-- Lines at which a run halts do what the lines do that it comes to. -/
theorem runLines_halting_alike (lines : List (Option String)) (s : Session σ) :
    Outcome.Alike (runLines ⟨true, custom⟩ t root lines s)
      (runLines ⟨false, custom⟩ t root ((⟨true, custom⟩ : Ruling σ).processed lines) s) := by
  induction lines generalizing s with
  | nil => exact .refl _
  | cons raw rest ih =>
    rw [processed_cons, Bool.and_true, runLines]
    split
    · exact ⟨rfl, Rule.gathered_journal s _, rfl⟩
    · rename_i speaks
      rw [runLines, if_neg speaks]
      rw [runLine_congr (g := ⟨true, custom⟩) (h := ⟨false, custom⟩) rfl]
      split
      · exact .refl _
      · exact ih _

/-! ## §5 Lists -/

theorem run_halting_alike (place : Option Root) (lines : List (Option String)) (s : Session σ) :
    Outcome.Alike (run ⟨true, custom⟩ t place (some (.lines lines)) s)
      (run ⟨false, custom⟩ t place
        (some (.lines ((⟨true, custom⟩ : Ruling σ).processed lines))) s) := by
  rw [run_some, run_some]
  cases checkPlace t place with
  | error e => exact .refl _
  | ok root =>
    obtain ⟨result, gathered, memory⟩ : Outcome.Alike
        (runLines ⟨true, custom⟩ t root lines (s.entering root))
        (runLines ⟨false, custom⟩ t root ((⟨true, custom⟩ : Ruling σ).processed lines)
          (s.entering root)) :=
      runLines_halting_alike lines (s.entering root)
    exact ⟨result, gathered, memory⟩

theorem run_append (quiet : ∀ c ∈ custom, c.OnlyRemembers) (place : Option Root)
    (first second : List (Option String)) (s : Session σ) :
    run ⟨false, custom⟩ t place (some (.lines (first ++ second))) s =
      Outcome.andThen (run ⟨false, custom⟩ t place (some (.lines first)) s)
        (run ⟨false, custom⟩ t place (some (.lines second))) := by
  rw [run_some, run_some]
  cases hp : checkPlace t place with
  | error e => rfl
  | ok root =>
    have next : run ⟨false, custom⟩ t place (some (.lines second)) =
        runBelow ⟨false, custom⟩ t root (.lines second) := by
      funext u
      rw [run_some, hp]
    rw [next]
    exact runBelow_append rfl quiet first second s

/-- **Lists compose, and halting cuts them off.** Let there be no custom rule, or
one that only remembers what it is given. Where blank lines do not end a list,
the lines of two lists in one do what the first list does and then, unless it has
failed, the second: the same failure, the same sets with the same spellings in the
same order, the same memory and the same records. Where they do, a list does what
its longest beginning without blank lines and comments does. -/
theorem run_append_and_halt (quiet : ∀ c ∈ custom, c.OnlyRemembers) (place : Option Root)
    (s : Session σ) :
    (∀ first second, run ⟨false, custom⟩ t place (some (.lines (first ++ second))) s =
      Outcome.andThen (run ⟨false, custom⟩ t place (some (.lines first)) s)
        (run ⟨false, custom⟩ t place (some (.lines second)))) ∧
    ∀ lines, ∃ said, LongestSpoken said lines ∧
      Outcome.Alike (run ⟨true, custom⟩ t place (some (.lines lines)) s)
        (run ⟨false, custom⟩ t place (some (.lines said)) s) :=
  ⟨fun first second => run_append quiet place first second s,
    fun lines => ⟨_, longestSpoken_processed lines, run_halting_alike place lines s⟩⟩

/-- A custom rule that lists what it is given. -/
def recorder : CustomRule (List (String × String)) := fun root line s =>
  (.ok (), { s with memory := s.memory ++ [(root, line)] })

/-- A tree with two names that differ in case only. -/
def twinTree : Tree := .ofPlaces [("/r/a", .file), ("/r/A", .file), ("/r/d/b", .file)]

/-- Custom lines before a comment and before a failing rule. -/
def firstLines : List (Option String) := [some "one", some "+wf:a", some " # two"]

/-- A rule that finds another spelling, and a rule that fails. -/
def secondLines : List (Option String) :=
  [some "+wf:**/*", some "three ", some "-rf:(", some "four"]

/-- What a run of some lines leads to where all custom lines are listed. -/
def recordedRun (halts : Bool) (lines : List (Option String)) :
    Outcome (List (String × String)) :=
  run ⟨halts, some recorder⟩ twinTree (some (.path "/r")) (some (.lines lines)) (.start .empty [])

/-- Both lists in one: the first spelling stays, and the failure comes between two
custom lines; and the same lines up to the comment. -/
theorem run_recorded_lines :
    (∀ c ∈ some recorder, c.OnlyRemembers) ∧
    recordedRun false (firstLines ++ secondLines) =
      Outcome.andThen (recordedRun false firstLines)
        (run ⟨false, some recorder⟩ twinTree (some (.path "/r")) (some (.lines secondLines))) ∧
    (recordedRun false (firstLines ++ secondLines)).2.files.toList = ["/r/a", "/r/d/b"] ∧
    (recordedRun false (firstLines ++ secondLines)).2.memory = [("/r", "one"), ("/r", "three")] ∧
    ∃ said, LongestSpoken said (firstLines ++ secondLines) ∧
      Outcome.Alike (recordedRun true (firstLines ++ secondLines)) (recordedRun false said) := by
  have quiet : ∀ c ∈ some recorder, c.OnlyRemembers := by
    rintro c ⟨⟩
    exact ⟨fun root line calls => calls ++ [(root, line)], fun _ _ _ => rfl⟩
  obtain ⟨append, halting⟩ :=
    run_append_and_halt (t := twinTree) quiet (some (.path "/r")) (.start .empty [])
  exact ⟨quiet, append firstLines secondLines, by decide +kernel, by decide +kernel,
    halting (firstLines ++ secondLines)⟩

end Ruling

end TreeSift
