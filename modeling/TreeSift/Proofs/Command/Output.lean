/-
  TreeSift.Proofs.Command.Output — a run prints everything or nothing.

  What a task prints when it succeeds is said without the task's own printing: the
  members of a set in order, each on a line (`Lists`), for a search the set that
  it finds, for rules the two sets that the files gather one after the other
  (`Applied`, `Prints`). A task that fails, at whatever point, has printed nothing
  by then (`runTask_allOrNothing`), so that a run ends with code 0 and all of the
  text, or with code 1 and none (`runLine_all_or_nothing`).

    §1 Listings  `Lists`, `lists_sorted`
    §2 Tasks     `Applied`, `Prints`
    §3 Failing   `AllOrNothing`, `runTask_allOrNothing`
    §4 Lines     `AsksDirectories`, `target_of_line`
    §5 Runs      `Succeeds`, `run_succeeds_or_fails`, `runLine_all_or_nothing`
-/
import Mathlib.Data.List.Sort
import Mathlib.Data.String.Basic
import TreeSift.Command.Run
import TreeSift.Proofs.PathSet.Gathering
import TreeSift.Proofs.Search.Candidates

namespace TreeSift

/-! ## §1 Listings -/

/-- Lines, each with a line feed after it. -/
def linesText (lines : List String) : String := String.join (lines.map (· ++ "\n"))

/-- A text lists a set: every member once, in order of the code points, each
followed by a line feed. -/
def Lists (s : PathSet) (text : String) : Prop :=
  ∃ lines : List String, lines.Perm s.toList ∧ lines.Pairwise (· < ·) ∧ text = linesText lines

theorem pairwise_sortedTexts (texts : List String) :
    (PathSet.sortedTexts texts).Pairwise (· ≤ ·) := List.pairwise_mergeSort' (· ≤ ·) texts

/-- The sorted members, each on a line, list a set. -/
theorem lists_sorted (s : PathSet) : Lists s (linesText s.sorted) := by
  have perm : s.sorted.Perm s.toList := List.mergeSort_perm _ _
  refine ⟨s.sorted, perm, ?_, rfl⟩
  have distinct : s.sorted.Pairwise (· ≠ ·) := perm.nodup_iff.2 s.toList_nodup
  exact ((pairwise_sortedTexts s.toList).and distinct).imp fun h => lt_of_le_of_ne h.1 h.2

namespace Progress

theorem printed_foldl_print (p : Progress) (lines : List String) :
    (lines.foldl print p).printed = p.printed ++ linesText lines := by
  induction lines generalizing p with
  | nil => simp [linesText]
  | cons line rest ih =>
    rw [List.foldl_cons, ih]
    simp [print, linesText, String.append_assoc]

theorem printed_printPaths (p : Progress) (s : PathSet) :
    (p.printPaths s).printed = p.printed ++ linesText s.sorted := printed_foldl_print p s.sorted

theorem printed_printGathered (p : Progress) (session : Session Unit) :
    (p.printGathered session).printed = p.printed ++
      ("[files]\n" ++ linesText session.files.sorted ++
        "[directories]\n" ++ linesText session.directories.sorted) := by
  rw [printGathered, printed_printPaths]
  simp only [print, printed_printPaths, String.append_assoc]
  rfl

end Progress

/-! ## §2 Tasks -/

/-- Files of rules carried out one after the other: each is read, and its rules
are carried out in the session that the file before it leaves. -/
inductive Applied (w : World) (s : Settings) (opened : Disk) (root : String) :
    List String → Session Unit → Session Unit → Prop
  | done (session : Session Unit) : Applied w s opened root [] session session
  | file {path : String} {rest rules : List String} {session next last : Session Unit}
      (read : s.readRules (opened.afterRecords w.time session.journal.written) path = .ok rules)
      (ran : s.ruling.run w.tree (some (.path root)) (some (.lines (rules.map some))) session =
        (.ok (), next))
      (others : Applied w s opened root rest next last) :
      Applied w s opened root (path :: rest) session last

/-- What a task prints when it succeeds: a search lists what it finds, and rules
list the files and the directories that they gather, each kind under its head. -/
inductive Prints (a : Arguments) (w : World) (s : Settings) (opened : Disk) (j : Journal) :
    String → Prop
  | search {method : Method} {pattern : String} {target : Target} {found : Finding} {text : String}
      (task : a.task = .search method (some pattern) target)
      (finds : TreeSift.search w.tree method (.of a.root pattern target) = .ok found)
      (lists : Lists found.paths text) : Prints a w s opened j text
  | rules {files : List String} {halt : Bool} {session : Session Unit} {below above : String}
      (task : a.task = .rules files halt)
      (applied : Applied w s opened a.root files (.start j ()) session)
      (listsFiles : Lists session.files below)
      (listsDirectories : Lists session.directories above) :
      Prints a w s opened j ("[files]\n" ++ below ++ "[directories]\n" ++ above)

/-! ## §3 Failing -/

variable {w : World} {s : Settings} {opened : Disk} {root : String}

theorem runFiles_eq_ok_iff {files : List String} {session last : Session Unit} :
    runFiles w s opened root files session = (.ok (), last) ↔
      Applied w s opened root files session last := by
  induction files generalizing session with
  | nil =>
    constructor
    · intro h
      obtain rfl := (Prod.mk.inj h).2
      exact .done session
    · rintro ⟨⟩
      rfl
  | cons path rest ih =>
    rw [runFiles]
    constructor
    · intro h
      split at h
      · exact absurd (Prod.mk.inj h).1 (by simp)
      · rename_i rules read
        split at h
        · exact absurd (Prod.mk.inj h).1 (by simp)
        · rename_i next ran
          exact .file read ran (ih.1 h)
    · intro h
      cases h with
      | file read ran others =>
        rw [read]
        dsimp only
        rw [ran]
        exact ih.2 others

/-- An attempt succeeds and has printed a text of some sort, or it fails, has
printed nothing, and there is no such text. -/
def AllOrNothing (before : Progress) (o : Attempt) (sort : String → Prop) : Prop :=
  (∃ text, o.1 = .ok () ∧ o.2.printed = before.printed ++ text ∧ sort text) ∨
    (∃ e, o.1 = .error e) ∧ o.2.printed = before.printed ∧ ∀ text, ¬ sort text

variable {a : Arguments}

theorem runSearch_allOrNothing {method : Method} {pattern : Option String} {target : Target}
    (task : a.task = .search method pattern target) (p : Progress) :
    AllOrNothing p (runSearch w.tree a.root method pattern target p)
      (Prints a w s opened p.journal) := by
  cases pattern with
  | none =>
    right
    refine ⟨?_, ?_, ?_⟩
    · rw [runSearch]
      split
      · exact ⟨_, rfl⟩
      · exact ⟨_, rfl⟩
    · rw [runSearch]
      split <;> rfl
    · intro text prints
      cases prints with
      | search task' => simp [task] at task'
      | rules task' => simp [task] at task'
  | some pattern =>
    have request : (⟨some (.path a.root), some pattern, some target.name⟩ : Request) =
        .of a.root pattern target := rfl
    rw [runSearch, request, searchRecorded]
    cases finds : search w.tree method (.of a.root pattern target) with
    | ok found =>
      exact .inl ⟨_, rfl, Progress.printed_printPaths _ _, .search task finds (lists_sorted _)⟩
    | error e =>
      refine .inr ⟨⟨_, rfl⟩, rfl, fun text prints => ?_⟩
      cases prints with
      | search task' finds' =>
        rw [task] at task'
        obtain ⟨rfl, rfl, rfl⟩ := by simpa using task'
        rw [finds] at finds'
        exact absurd finds' (by simp)
      | rules task' => simp [task] at task'

theorem runRules_allOrNothing {files : List String} {halt : Bool}
    (task : a.task = .rules files halt) (p : Progress) :
    AllOrNothing p (runRules w s opened a.root files p) (Prints a w s opened p.journal) := by
  rw [runRules]
  cases ran : runFiles w s opened a.root files (.start p.journal ()) with
  | mk result session =>
    cases result with
    | ok =>
      exact .inl ⟨_, rfl, Progress.printed_printGathered _ _,
        .rules task (runFiles_eq_ok_iff.1 ran) (lists_sorted _) (lists_sorted _)⟩
    | error e =>
      refine .inr ⟨⟨_, rfl⟩, rfl, fun text prints => ?_⟩
      cases prints with
      | search task' => simp [task] at task'
      | rules task' applied =>
        rw [task] at task'
        obtain ⟨rfl, rfl⟩ := by simpa using task'
        rw [runFiles_eq_ok_iff.2 applied] at ran
        exact absurd (Prod.mk.inj ran).1 (by simp)

/-- A task prints all that it should and succeeds, or it fails and prints nothing. -/
theorem runTask_allOrNothing (a : Arguments) (p : Progress) :
    AllOrNothing p (a.runTask w s opened p) (Prints a w s opened p.journal) := by
  rw [Arguments.runTask]
  cases task : a.task with
  | search method pattern target => exact runSearch_allOrNothing task p
  | rules files halt => exact runRules_allOrNothing task p

/-! ## §4 Lines -/

/-- Whether a line gives its command the switch for directories. -/
def AsksDirectories (line : List String) : Prop :=
  ∃ own name rest sorted, Grammar.program.sort line = .ok own ∧
    own.words .command = name :: rest ∧ Grammar.search.sort rest = .ok sorted ∧
    sorted.has .directories = true

/-- A line that is accepted has been sorted twice: as a line of the program, and
from its command on. -/
theorem ofLine_eq_ok {line : List String} (accepted : Arguments.ofLine line = .ok a) :
    ∃ own name rest command sorted, Grammar.program.sort line = .ok own ∧
      own.words .command = name :: rest ∧ command ∈ commands ∧
      command.2.1.sort rest = .ok sorted ∧ a.task = command.2.2 sorted := by
  unfold Arguments.ofLine at accepted
  obtain ⟨own, hown, accepted⟩ := Fallible.bind_eq_ok.1 accepted
  split at accepted
  · exact absurd accepted (by simp [throw, throwThe, MonadExceptOf.throw])
  · rename_i name rest words
    split at accepted
    · exact absurd accepted (by simp [throw, throwThe, MonadExceptOf.throw])
    · rename_i grammar task found
      obtain ⟨sorted, hsorted, accepted⟩ := Fallible.bind_eq_ok.1 accepted
      split at accepted
      · exact absurd accepted (by simp [throw, throwThe, MonadExceptOf.throw])
      · obtain rfl := Except.ok.inj accepted
        exact ⟨own, name, rest, _, sorted, hown, words, List.mem_of_find?_eq_some found, hsorted, rfl⟩

/-- A search is for directories where the line says so, and for files otherwise. -/
theorem target_of_line {line : List String} (accepted : Arguments.ofLine line = .ok a)
    {method : Method} {pattern : Option String} {target : Target}
    (task : a.task = .search method pattern target) :
    target = .directory ↔ AsksDirectories line := by
  obtain ⟨own, name, rest, command, sorted, hown, words, member, hsorted, made⟩ :=
    ofLine_eq_ok accepted
  -- Both commands that search have one grammar and choose the target in one way.
  have search : command.2.1 = Grammar.search ∧
      target = if sorted.has .directories then .directory else .file := by
    rw [task] at made
    simp only [commands, List.mem_cons, List.not_mem_nil, or_false] at member
    obtain rfl | rfl | rfl := member
    · exact ⟨rfl, (Task.search.inj made).2.2⟩
    · exact ⟨rfl, (Task.search.inj made).2.2⟩
    · exact absurd made (by simp [rulesTask])
  obtain ⟨grammar, rfl⟩ := search
  rw [grammar] at hsorted
  constructor
  · intro chosen
    refine ⟨own, name, rest, sorted, hown, words, hsorted, ?_⟩
    by_contra absent
    rw [if_neg absent] at chosen
    exact absurd chosen (by decide)
  · rintro ⟨own', name', rest', sorted', hown', words', hsorted', asked⟩
    obtain rfl := Except.ok.inj (hown.symm.trans hown')
    obtain ⟨rfl, rfl⟩ := List.cons.inj (words.symm.trans words')
    obtain rfl := Except.ok.inj (hsorted.symm.trans hsorted')
    rw [if_pos asked]

/-! ## §5 Runs -/

/-- A run succeeds with a text: its settings can be read, its logger can be made,
and the text is what the task prints when it succeeds. -/
def Succeeds (a : Arguments) (w : World) (text : String) : Prop :=
  ∃ s logger j opened, a.settings w = .ok s ∧ s.logger w.disk .empty = .ok (logger, j, opened) ∧
    Prints a w s opened (a.begin logger j).journal text

/-- An attempt succeeds and has printed what the run succeeds with, or it fails and
has printed nothing. -/
theorem attempt_allOrNothing (a : Arguments) (w : World) :
    AllOrNothing .start (a.attempt w).1 (Succeeds a w) := by
  rw [Arguments.attempt]
  cases hs : a.settings w with
  | error e =>
    refine .inr ⟨⟨e, rfl⟩, rfl, ?_⟩
    rintro text ⟨s, logger, j, opened, read, -⟩
    rw [hs] at read
    exact absurd read (by simp)
  | ok s =>
    dsimp only
    cases hl : s.logger w.disk .empty with
    | error e =>
      refine .inr ⟨⟨.logger e, rfl⟩, rfl, ?_⟩
      rintro text ⟨s', logger, j, opened, read, made, -⟩
      obtain rfl := Except.ok.inj (hs.symm.trans read)
      rw [hl] at made
      exact absurd made (by simp)
    | ok made =>
      obtain ⟨logger, j, opened⟩ := made
      have succeeds : Succeeds a w = Prints a w s opened (a.begin logger j).journal := by
        funext text
        refine propext ⟨?_, fun prints => ⟨s, logger, j, opened, hs, hl, prints⟩⟩
        rintro ⟨s', logger', j', opened', read, made, prints⟩
        obtain rfl := Except.ok.inj (hs.symm.trans read)
        obtain ⟨rfl, rfl, rfl⟩ := by simpa using hl.symm.trans made
        exact prints
      rw [succeeds]
      -- Nothing is printed before the task begins.
      exact runTask_allOrNothing a (a.begin logger j)

/-- The report tells how far the attempt came. -/
theorem run_eq_attempt (a : Arguments) (w : World) :
    (a.run w).output = (a.attempt w).1.2.printed ∧
      ((a.attempt w).1.1 = .ok () → (a.run w).code = 0) ∧
      ∀ e, (a.attempt w).1.1 = .error e → (a.run w).code = 1 := by
  rw [Arguments.run]
  obtain ⟨⟨_ | _, p⟩, opened⟩ := a.attempt w
  · simp
  · simp

/-- A run ends with code 0 and the text with which it succeeds, or with code 1 and
no text if there is none with which it could. -/
theorem run_succeeds_or_fails (a : Arguments) (w : World) :
    ((a.run w).code = 0 ∧ Succeeds a w (a.run w).output) ∨
      ((a.run w).code = 1 ∧ (a.run w).output = "" ∧ ∀ text, ¬ Succeeds a w text) := by
  obtain ⟨output, whenOk, whenError⟩ := run_eq_attempt a w
  rcases attempt_allOrNothing a w with ⟨text, ok, printed, succeeds⟩ |
    ⟨⟨e, failed⟩, printed, none⟩
  · have all : (a.run w).output = text := by
      rw [output, printed]
      exact String.empty_append
    exact .inl ⟨whenOk ok, all ▸ succeeds⟩
  · exact .inr ⟨whenError e failed, output.trans printed, none⟩

theorem runLine_eq_ok {line : List String} (accepted : Arguments.ofLine line = .ok a) (w : World) :
    runLine w line = .ok (a.run w) := by
  rw [runLine, accepted]
  rfl

/-- **A run prints everything or nothing.** A line that is accepted is carried out
and reported on, whatever it finds. Either the code is 0 and the output is what
the task prints when it succeeds: the members of what the search finds, each once,
in order of their code points and with a line feed after it, or the files and then
the directories that the rules gather, in the same way. Or the code is 1, there is
no output, and no success was to be had: the settings, the logger, a file of rules
or a search has failed. A search is for directories just where the line has the
switch for them. -/
theorem runLine_all_or_nothing {line : List String} {a : Arguments}
    (accepted : Arguments.ofLine line = .ok a) (w : World) :
    (∃ report, runLine w line = .ok report ∧
      ((report.code = 0 ∧ Succeeds a w report.output) ∨
        (report.code = 1 ∧ report.output = "" ∧ ∀ text, ¬ Succeeds a w text))) ∧
    ∀ method pattern target, a.task = .search method pattern target →
      (target = .directory ↔ AsksDirectories line) := by
  refine ⟨⟨a.run w, runLine_eq_ok accepted w, run_succeeds_or_fails a w⟩, ?_⟩
  intro method pattern target task
  exact target_of_line accepted task

/-- A tree with a directory that cannot be listed, and two files of rules, of which
only the second goes into it. -/
def guardedWorld : World where
  tree := .ofPlaces [("/r/b/x", .file), ("/r/a", .denied), ("/r/c", .file)]
  disk := (Disk.empty.write "near" (some "+wf:*".toUTF8)).write "deep" (some "+wf:**/*".toUTF8)
  environment := []
  time := ""

/-- The rules of both files. -/
def guardedRules : Arguments := ⟨none, false, none, "/r", .rules ["near", "deep"] false⟩

/-- A search for the directories beside each other. -/
def guardedSearch : Arguments :=
  ⟨none, false, none, "/r", .search .wildcard (some "*") .directory⟩

/-- The second file fails when the first has gathered something, and nothing is
printed; a search that stays clear of the directory succeeds. -/
theorem runLine_guarded_directory :
    (∃ report, runLine guardedWorld ["rules", "/r", "near", "deep"] = .ok report ∧
      report.code = 1 ∧ report.output = "") ∧
    (∃ report, runLine guardedWorld ["wildcard", "/r", "*", "-d"] = .ok report ∧
      report.code = 0 ∧ Succeeds guardedSearch guardedWorld report.output) ∧
    AsksDirectories ["wildcard", "/r", "*", "-d"] := by
  have rules : Arguments.ofLine ["rules", "/r", "near", "deep"] = .ok guardedRules := rfl
  have search : Arguments.ofLine ["wildcard", "/r", "*", "-d"] = .ok guardedSearch := rfl
  have fails : (guardedRules.run guardedWorld).code = 1 := by decide +kernel
  have succeeds : (guardedSearch.run guardedWorld).code = 0 := by decide +kernel
  obtain ⟨⟨report, ran, outcome⟩, -⟩ := runLine_all_or_nothing rules guardedWorld
  obtain ⟨⟨report', ran', outcome'⟩, asks⟩ := runLine_all_or_nothing search guardedWorld
  obtain rfl := Except.ok.inj ((runLine_eq_ok rules guardedWorld).symm.trans ran)
  obtain rfl := Except.ok.inj ((runLine_eq_ok search guardedWorld).symm.trans ran')
  refine ⟨⟨_, ran, fails, ?_⟩, ⟨_, ran', succeeds, ?_⟩, (asks _ _ _ rfl).1 rfl⟩
  · rcases outcome with ⟨code, -⟩ | ⟨-, nothing, -⟩
    · rw [fails] at code
      exact absurd code (by decide)
    · exact nothing
  · rcases outcome' with ⟨-, text⟩ | ⟨code, -⟩
    · exact text
    · rw [succeeds] at code
      exact absurd code (by decide)

end TreeSift
