/-
  TreeSift.Proofs.Command.RuleFiles — several files of rules are one list.

  A run carries out the rules of its files one file after the other, each in a list
  of its own, so that where blank lines end a list they end only the file they stand
  in. What it gathers is what one list gathers that nothing ends early: the lines of
  all files in turn, each file's cut at its first blank line or comment if halting is
  switched on (`runFiles_one_list`). Where it is not, a text file can be cut in two at
  the end of any line, and the sessions that follow are the same (`runFiles_split`).

    §1 Halting   `Loaded`, `haltOnBlank_iff`
    §2 Reading   `ReadInTurn`, `Settings.HoldsText`
    §3 One list  `runFiles_one_list`
    §4 Two files for one  `runFiles_split`
    §5 Runs      `rule_files_as_one_list`
-/
import TreeSift.Proofs.Command.Output
import TreeSift.Proofs.Command.Records
import TreeSift.Proofs.Rules.LastRule
import TreeSift.Proofs.Settings.Layers
import TreeSift.Proofs.Settings.Writing
import TreeSift.Proofs.Text.Lines

namespace TreeSift

/-! ## §1 Halting -/

theorem keyParts_levelKey :
    keyParts Settings.levelKey = ("fssearch", ["logging", "level"]) := by decide

theorem keyParts_logFileKey :
    keyParts Settings.logFileKey = ("fssearch", ["logging", "file"]) := by decide

theorem keyParts_haltKey :
    keyParts Settings.haltKey = ("fssearch", ["rules", "halt_on_blank_line"]) := by decide

/-- A line says whether rules halt just if it has the switch for it. -/
theorem ownLayer_halt (a : Arguments) :
    ((Value.mapping a.ownLayer.content).at? (keyPath Settings.haltKey)).bind Settings.present =
      if a.halts then some (.flag true) else none := by
  unfold Arguments.ownLayer Arguments.ownSettings
  cases a.debug <;> cases a.halts <;> cases a.logFile with
  | none => rfl
  | some path =>
    by_cases none : path = ""
    · subst none
      rfl
    · simp [none, keyParts_levelKey, keyParts_logFileKey, keyParts_haltKey, Layer.write,
        Layer.empty, Ties.others_nil, Ties.without, Mapping.walk, Mapping.get?, Mapping.set,
        Value.entries, Value.at?, keyPath, Scalar.sameKey_text, Settings.present, Value.flag,
        Value.isNull]

/-- Where each layer of the settings of a run comes from. -/
structure Loaded (a : Arguments) (w : World) (s : Settings) : Prop where
  runtime : s.layer .runtime = []
  arguments : s.layer .arguments = a.ownLayer.content
  environment : s.layer .environment = environmentLayer w.environment
  file : ∀ path, a.settingsFile? = some path → fileLayer w.disk path = .ok (s.layer .file)
  noFile : a.settingsFile? = none → s.layer .file = []
  defaults : s.layer .defaults = Settings.defaultLayer

theorem settings_eq_ok {a : Arguments} {w : World} {s : Settings} (h : a.settings w = .ok s) :
    ∃ base, Settings.load w.disk a.settingsFile? w.environment = .ok base ∧
      s = base.fill .arguments a.ownLayer := by
  have read : ∃ base, (Settings.load w.disk a.settingsFile? w.environment).mapError
      CommandFailure.settings = .ok base ∧ .ok (base.fill .arguments a.ownLayer) =
        (.ok s : Except CommandFailure Settings) := by
    rw [Arguments.settings] at h
    cases hf : a.settingsFile? with
    | none =>
      rw [hf] at h
      exact Fallible.bind_eq_ok.1 h
    | some path =>
      rw [hf] at h
      dsimp only at h
      split at h
      · exact absurd h (by simp [throw, throwThe, MonadExceptOf.throw])
      · exact Fallible.bind_eq_ok.1 h
  obtain ⟨base, hb, hs⟩ := read
  exact ⟨base, Fallible.mapError_eq_ok.1 hb, (Except.ok.inj hs).symm⟩

theorem loaded_of_settings {a : Arguments} {w : World} {s : Settings}
    (h : a.settings w = .ok s) : Loaded a w s := by
  obtain ⟨base, hb, rfl⟩ := settings_eq_ok h
  have named : a.settingsFile?.filter (· ≠ "") = a.settingsFile? := by
    rw [Arguments.settingsFile?, Option.filter_filter]
    simp
  rw [Settings.load, named] at hb
  cases hf : a.settingsFile? with
  | none =>
    rw [hf] at hb
    obtain rfl := Except.ok.inj hb
    exact ⟨rfl, rfl, rfl, by simp [hf], fun _ => rfl, rfl⟩
  | some path =>
    rw [hf] at hb
    obtain ⟨below, hbelow, hb⟩ := Fallible.bind_eq_ok.1 hb
    obtain ⟨layer, hlayer, rfl⟩ := Fallible.map_eq_ok.1 hbelow
    obtain rfl := Except.ok.inj hb
    refine ⟨rfl, rfl, rfl, fun other ho => ?_, by simp [hf], rfl⟩
    obtain rfl := Option.some.inj (hf.symm.trans ho)
    exact congrArg (Except.map Layer.content) hlayer

/-- Blank lines end a list if the line says so, or if the variables do, or the file of
settings where the variables say nothing. -/
theorem haltOnBlank_iff {a : Arguments} {w : World} {s : Settings} (h : Loaded a w s) :
    s.ruling.haltOnBlank = true ↔ a.halts = true ∨
      ∃ v, (s.from? Settings.haltKey .environment).or (s.from? Settings.haltKey .file) = some v ∧
        v.isTruthy = true := by
  have runtime : s.from? Settings.haltKey .runtime = none := by
    rw [Settings.from?, h.runtime]
    rfl
  have own : s.from? Settings.haltKey .arguments = if a.halts then some (.flag true) else none := by
    rw [Settings.from?, h.arguments, ownLayer_halt]
  have default : s.from? Settings.haltKey .defaults = some (.flag false) := by
    rw [Settings.from?, h.defaults]
    rfl
  rw [Settings.ruling, Settings.getD, Settings.get?_eq, Source.descending]
  simp only [List.findSome?_cons, runtime, own, default]
  cases a.halts with
  | true => simp [Value.flag, Value.isTruthy, Scalar.isTruthy]
  | false =>
    cases s.from? Settings.haltKey .environment with
    | some v => simp
    | none =>
      cases s.from? Settings.haltKey .file with
      | some v => simp
      | none => simp [Value.flag, Value.isTruthy, Scalar.isTruthy]

/-! ## §2 Reading -/

/-- The rules of files that are read one after the other, each file as it stands when
the rules of those before it have been carried out. -/
inductive ReadInTurn (w : World) (s : Settings) (opened : Disk) (root : String) :
    List String → List (List String) → Session Unit → Prop
  | done (session : Session Unit) : ReadInTurn w s opened root [] [] session
  | file {path : String} {rest rules : List String} {lists : List (List String)}
      {session : Session Unit}
      (read : s.readRules (opened.afterRecords w.time session.journal.written) path = .ok rules)
      (others : ReadInTurn w s opened root rest lists
        (s.ruling.run w.tree (some (.path root)) (some (.lines (rules.map some))) session).2) :
      ReadInTurn w s opened root (path :: rest) (rules :: lists) session

/-- A file of rules holds a text: it can be read, and in the encoding of the settings
its content stands for the text. -/
def Settings.HoldsText (s : Settings) (d : Disk) (path text : String) : Prop :=
  ∃ content name encoding, ruleFileAt d path = .ok (.file content) ∧ s.ruleEncoding = .ok name ∧
    Encoding.ofName? name = some encoding ∧ encoding.decode content = .ok text

/-- The rules of a text that is not structured are its lines. -/
theorem readRules_of_holdsText {s : Settings} {d : Disk} {path text : String}
    (h : s.HoldsText d path text) (plain : isStructured path = false) :
    s.readRules d path = .ok (Text.lines text) := by
  obtain ⟨content, name, encoding, hc, hn, he, ht⟩ := h
  have rules : rulesOfText path (Text.plainBreaks text) = .ok (Text.lines text) := by
    rw [rulesOfText, plain, Text.lines_plainBreaks]
    rfl
  rw [Settings.readRules, hc, hn, Fallible.mapError_ok, Fallible.ok_bind, Fallible.ok_bind,
    rulesAt, rulesOfContent, he]
  dsimp only
  rw [ht]
  dsimp only
  rw [rules, Fallible.mapError_ok]

section Files

variable {w : World} {s : Settings} {d opened : Disk} {root : String} {sinks : List Sink}

/-- Files to which no records go are read as they stand at the beginning. -/
theorem readInTurn_of_spared (made : s.sinks d = .ok (sinks, opened)) {files : List String}
    {lists : List (List String)} (spared : ∀ path ∈ files, s.Spares opened path)
    (read : List.Forall₂ (fun path rules => s.readRules opened path = .ok rules) files lists)
    (session : Session Unit) (confined : session.journal.Confined sinks) :
    ReadInTurn w s opened root files lists session := by
  induction read generalizing session with
  | nil => exact .done session
  | cons read others ih =>
    refine .file ?_ (ih (fun path hp => spared path (List.mem_cons_of_mem _ hp)) _
      (Ruling.confined_run rfl _ _ _ confined))
    rw [Settings.readRules_afterRecords made (spared _ List.mem_cons_self) w.time confined]
    exact read

/-! ## §3 One list -/

/-- Lines that may halt a list do what those do that the list comes to. -/
theorem run_processed_alike {g : Ruling Unit} (noCustom : g.custom = none) (root : String)
    (t : Tree) (lines : List (Option String)) (u : Session Unit) :
    Outcome.Alike (g.run t (some (.path root)) (some (.lines lines)) u)
      (Ruling.run ⟨false, none⟩ t (some (.path root)) (some (.lines (g.processed lines))) u) := by
  obtain ⟨halts, custom⟩ := g
  obtain rfl : custom = none := noCustom
  cases halts with
  | true => exact Ruling.run_halting_alike _ lines u
  | false => exact .refl _

/-- What a list gathers depends on what has been gathered before, and on no record. -/
theorem gathered_run_congr {g : Ruling Unit} (noCustom : g.custom = none) {t : Tree}
    {rules : RuleList} {u u' v v' : Session Unit}
    (ranU : g.run t (some (.path root)) (some rules) u = (.ok (), u'))
    (ranV : g.run t (some (.path root)) (some rules) v = (.ok (), v'))
    (same : ∀ target, u.gathered target = v.gathered target) (target : Target) :
    u'.gathered target = v'.gathered target := by
  rw [Ruling.gathered_run noCustom ranU, Ruling.gathered_run noCustom ranV, same]

/-- Files whose rules all succeed in one list succeed one after the other, and gather
the same. -/
theorem runFiles_one_list {files : List String} {lists : List (List String)}
    {session v last : Session Unit} (reads : ReadInTurn w s opened root files lists session)
    (same : ∀ target, session.gathered target = v.gathered target)
    (ran : Ruling.run ⟨false, none⟩ w.tree (some (.path root))
      (some (.lines (lists.flatMap fun rules => s.ruling.processed (rules.map some)))) v =
        (.ok (), last)) :
    ∃ final, runFiles w s opened root files session = (.ok (), final) ∧
      ∀ target, final.gathered target = last.gathered target := by
  induction reads generalizing v with
  | done session =>
    refine ⟨session, rfl, fun target => ?_⟩
    rw [same, Ruling.gathered_run rfl ran]
    rfl
  | @file path rest rules lists session read others ih =>
    rw [List.flatMap_cons, Ruling.run_append (by simp)] at ran
    -- The rules of this file, cut where they halt, in the one list.
    cases here : Ruling.run ⟨false, none⟩ w.tree (some (.path root))
        (some (.lines (s.ruling.processed (rules.map some)))) v with
    | mk result v' =>
      rw [here] at ran
      cases result with
      | error e => exact absurd (Prod.mk.inj ran).1 (by simp)
      | ok =>
        obtain ⟨first, gathered, -⟩ := run_processed_alike (g := s.ruling) rfl root w.tree
          (rules.map some) session
        have ok : (Ruling.run ⟨false, none⟩ w.tree (some (.path root))
            (some (.lines (s.ruling.processed (rules.map some)))) session).1 = .ok () := by
          rw [Ruling.run_fst_congr rfl _ _ session v, here]
        have next : ∀ target, (s.ruling.run w.tree (some (.path root))
            (some (.lines (rules.map some))) session).2.gathered target = v'.gathered target := by
          intro target
          rw [gathered]
          exact gathered_run_congr rfl (Prod.ext ok rfl) here same target
        obtain ⟨final, rest, all⟩ := ih next ran
        refine ⟨final, ?_, all⟩
        rw [runFiles, read]
        dsimp only
        rw [show s.ruling.run w.tree (some (.path root)) (some (.lines (rules.map some))) session =
          (.ok (), _) from Prod.ext (first.trans ok) rfl]
        exact rest

/-! ## §4 Two files for one -/

theorem runFiles_append (before rest : List String) (session : Session Unit) :
    runFiles w s opened root (before ++ rest) session =
      match runFiles w s opened root before session with
      | (.error e, u) => (.error e, u)
      | (.ok (), u) => runFiles w s opened root rest u := by
  induction before generalizing session with
  | nil => rfl
  | cons path more ih =>
    rw [List.cons_append, runFiles, runFiles]
    split
    · rfl
    · split
      · rfl
      · exact ih _

theorem confined_runFiles (files : List String) (session : Session Unit)
    (confined : session.journal.Confined sinks) :
    (runFiles w s opened root files session).2.journal.Confined sinks := by
  induction files generalizing session with
  | nil => exact confined
  | cons path rest ih =>
    rw [runFiles]
    split
    · exact confined
    · rename_i rules _
      have here := Ruling.confined_run (g := s.ruling) (t := w.tree) rfl (some (.path root))
        (.lines (rules.map some)) session confined
      split
      · rename_i hu
        rw [hu] at here
        exact here
      · rename_i hu
        rw [hu] at here
        exact ih _ here

/-- Where blank lines end no list, two files do what one file with the rules of both
does. -/
theorem runFiles_split (goesOn : s.ruling.haltOnBlank = false)
    (made : s.sinks d = .ok (sinks, opened)) {p p₁ p₂ : String}
    (spared : ∀ path ∈ [p, p₁, p₂], s.Spares opened path) {first second : List String}
    (read : s.readRules opened p = .ok (first ++ second))
    (read₁ : s.readRules opened p₁ = .ok first) (read₂ : s.readRules opened p₂ = .ok second)
    (after : List String) (session : Session Unit) (confined : session.journal.Confined sinks) :
    runFiles w s opened root (p₁ :: p₂ :: after) session =
      runFiles w s opened root (p :: after) session := by
  have ruling : s.ruling = ⟨false, none⟩ := congrArg (Ruling.mk · none) goesOn
  have one := Settings.readRules_afterRecords made (spared p (by simp)) w.time confined
  have two := Settings.readRules_afterRecords made (spared p₁ (by simp)) w.time confined
  have both : Ruling.run ⟨false, none⟩ w.tree (some (.path root))
      (some (.lines (first.map some ++ second.map some))) session = _ :=
    Ruling.run_append (by simp) (some (.path root)) (first.map some) (second.map some) session
  have left := Ruling.confined_run (g := s.ruling) (t := w.tree) rfl (some (.path root))
    (.lines (first.map some)) session confined
  rw [runFiles, two, read₁, runFiles, one, read]
  dsimp only
  rw [ruling] at left ⊢
  rw [List.map_append, both]
  cases hu : Ruling.run ⟨false, none⟩ w.tree (some (.path root))
      (some (.lines (first.map some))) session with
  | mk result u =>
    rw [hu] at left
    cases result with
    | error e => rfl
    | ok =>
      dsimp only
      rw [runFiles, Settings.readRules_afterRecords made (spared p₂ (by simp)) w.time left, read₂,
        ruling]
      rfl

end Files

/-! ## §5 Runs -/

section Runs

variable {a : Arguments} {w : World} {s : Settings} {opened : Disk} {logger : Logger} {j : Journal}
  {files : List String} {halt : Bool}

/-- All that a run writes goes to the sinks that its settings name. -/
theorem confined_begin (a : Arguments) {d : Disk}
    (made : s.logger d .empty = .ok (logger, j, opened)) :
    ∃ sinks, s.sinks d = .ok (sinks, opened) ∧ (a.begin logger j).journal.Confined sinks := by
  obtain ⟨level, sinks, hs, created⟩ := Settings.logger_eq_ok made
  have fresh := Journal.confined_create level sinks
  rw [created] at fresh
  exact ⟨sinks, hs, fresh.write ..⟩

theorem attempt_of_rules (task : a.task = .rules files halt) (loaded : a.settings w = .ok s)
    (made : s.logger w.disk .empty = .ok (logger, j, opened)) :
    a.attempt w = (runRules w s opened a.root files (a.begin logger j), opened) := by
  rw [Arguments.attempt, loaded]
  dsimp only
  rw [made]
  dsimp only
  rw [Arguments.runTask, task]

/-- A run whose files have been carried out prints the two sets that they gathered. -/
theorem run_of_runFiles (task : a.task = .rules files halt) (loaded : a.settings w = .ok s)
    (made : s.logger w.disk .empty = .ok (logger, j, opened)) {final : Session Unit}
    (ran : runFiles w s opened a.root files (.start (a.begin logger j).journal ()) =
      (.ok (), final)) :
    (a.run w).code = 0 ∧ (a.run w).output = "[files]\n" ++ linesText final.files.sorted ++
      "[directories]\n" ++ linesText final.directories.sorted := by
  rw [Arguments.run, attempt_of_rules task loaded made, runRules, ran]
  refine ⟨rfl, ?_⟩
  dsimp only
  rw [Progress.printed_printGathered]
  exact String.empty_append

theorem runRules_congr {root : String} {others : List String} {p : Progress}
    (same : runFiles w s opened root others (.start p.journal ()) =
      runFiles w s opened root files (.start p.journal ())) :
    runRules w s opened root others p = runRules w s opened root files p := by
  rw [runRules, runRules, same]

/-- A run leaves the same report with other files that come to the same. -/
theorem run_congr_files (task : a.task = .rules files halt) (loaded : a.settings w = .ok s)
    (made : s.logger w.disk .empty = .ok (logger, j, opened)) {others : List String}
    (same : runFiles w s opened a.root others (.start (a.begin logger j).journal ()) =
      runFiles w s opened a.root files (.start (a.begin logger j).journal ())) :
    Arguments.run { a with task := .rules others halt } w = a.run w := by
  obtain ⟨config, debug, logFile, root, given⟩ := a
  obtain rfl : given = .rules files halt := task
  -- Settings and records are made without a look at the names of the files.
  have loaded' : Arguments.settings ⟨config, debug, logFile, root, .rules others halt⟩ w = .ok s :=
    loaded
  have attempted : Arguments.attempt ⟨config, debug, logFile, root, .rules others halt⟩ w =
      Arguments.attempt ⟨config, debug, logFile, root, .rules files halt⟩ w := by
    rw [attempt_of_rules rfl loaded' made, attempt_of_rules rfl loaded made]
    exact congrArg (·, opened) (runRules_congr same)
  rw [Arguments.run, Arguments.run, attempted]
  rfl

/-- **Several files of rules are one list.** A run whose files can be read one after
the other, and none of whose rules fails, prints the files and the directories that one
list gathers which nothing ends early: the lines of all files in turn, those of each
file up to its first blank line or comment if halting is switched on. It is by the line,
or else by the variables, or else by the file of settings. Files to which no records go
are read as they stand at the beginning. Where halting is off, a text file can be cut in
two at the end of a line: the report is the same, also if a rule fails. -/
theorem rule_files_as_one_list (task : a.task = .rules files halt) (loaded : a.settings w = .ok s)
    (made : s.logger w.disk .empty = .ok (logger, j, opened)) :
    (∀ lists, ReadInTurn w s opened a.root files lists (.start (a.begin logger j).journal ()) →
      ∀ journal last, Ruling.run ⟨false, none⟩ w.tree (some (.path a.root))
          (some (.lines (lists.flatMap fun rules => s.ruling.processed (rules.map some))))
          (.start journal ()) = (.ok (), last) →
        (a.run w).code = 0 ∧ (a.run w).output = "[files]\n" ++ linesText last.files.sorted ++
          "[directories]\n" ++ linesText last.directories.sorted) ∧
    (Loaded a w s ∧ (s.ruling.haltOnBlank = true ↔ halt = true ∨
      ∃ v, (s.from? Settings.haltKey .environment).or (s.from? Settings.haltKey .file) = some v ∧
        v.isTruthy = true)) ∧
    (∀ lists, (∀ path ∈ files, s.Spares opened path) →
      List.Forall₂ (fun path rules => s.readRules opened path = .ok rules) files lists →
        ReadInTurn w s opened a.root files lists (.start (a.begin logger j).journal ())) ∧
    (s.ruling.haltOnBlank = false → ∀ before after p p₁ p₂ t₁ t₂, files = before ++ p :: after →
      (∀ path ∈ [p, p₁, p₂], s.Spares opened path ∧ isStructured path = false) →
      s.HoldsText opened p (t₁ ++ t₂) → s.HoldsText opened p₁ t₁ → s.HoldsText opened p₂ t₂ →
      Text.LineEnd t₁.toList t₂.toList →
        Arguments.run { a with task := .rules (before ++ p₁ :: p₂ :: after) halt } w = a.run w) := by
  obtain ⟨sinks, opens, confined⟩ := confined_begin a made
  refine ⟨fun lists reads journal last ran => ?_, ⟨loaded_of_settings loaded, ?_⟩,
    fun lists spared read => readInTurn_of_spared opens spared read _ confined, ?_⟩
  · have fresh : ∀ target, (Session.start (a.begin logger j).journal ()).gathered target =
        (Session.start journal ()).gathered target := fun target => by cases target <;> rfl
    obtain ⟨final, all, gathered⟩ := runFiles_one_list reads fresh ran
    obtain ⟨code, output⟩ := run_of_runFiles task loaded made all
    refine ⟨code, ?_⟩
    rw [output, show final.files = last.files from gathered .file,
      show final.directories = last.directories from gathered .directory]
  · have switch : a.halts = halt := by rw [Arguments.halts, task]
    rw [haltOnBlank_iff (loaded_of_settings loaded), switch]
  · intro goesOn before after p p₁ p₂ t₁ t₂ hfiles plain whole first second ended
    have spared : ∀ path ∈ [p, p₁, p₂], s.Spares opened path := fun path hp => (plain path hp).1
    have read : s.readRules opened p = .ok (Text.lines t₁ ++ Text.lines t₂) := by
      rw [readRules_of_holdsText whole (plain p (by simp)).2, Text.lines_append ended]
    refine run_congr_files task loaded made ?_
    rw [hfiles, runFiles_append, runFiles_append]
    have later : (runFiles w s opened a.root before
        (.start (a.begin logger j).journal ())).2.journal.Confined sinks :=
      confined_runFiles before _ confined
    split
    · rfl
    · rename_i u hu
      rw [hu] at later
      exact runFiles_split goesOn opens spared read
        (readRules_of_holdsText first (plain p₁ (by simp)).2)
        (readRules_of_holdsText second (plain p₂ (by simp)).2) after u later

/-- A file with a blank line before a rule that would undo what the rule before the line
does, a second file, and a file with the text of both. -/
def pausingWorld : World where
  tree := .ofPlaces [("/r/a", .file), ("/r/d/b", .file)]
  disk := ((Disk.empty.write "one" (some "+wf:*\r\n\n-wf:*\n".toUTF8)).write "two"
    (some "+wd:*".toUTF8)).write "both" (some "+wf:*\r\n\n-wf:*\n+wd:*".toUTF8)
  environment := []
  time := ""

/-- A run with rules of files there. -/
def pausingRun (files : List String) (halt : Bool) : Arguments :=
  ⟨none, false, none, "/r", .rules files halt⟩

/-- The settings of such a run. -/
def pausingSettings (files : List String) (halt : Bool) : Settings :=
  (Settings.defaults.setLayer .environment []).fill .arguments (pausingRun files halt).ownLayer

/-- A blank line ends its own file and not the one after it; where it ends none, the
file with both texts does what the two files do. -/
theorem rule_files_that_pause :
    ((pausingRun ["one", "two"] true).run pausingWorld).code = 0 ∧
    ((pausingRun ["one", "two"] true).run pausingWorld).output =
      "[files]\n/r/a\n[directories]\n/r/d\n" ∧
    (pausingRun ["one", "two"] false).run pausingWorld =
      (pausingRun ["both"] false).run pausingWorld := by
  have loaded : ∀ files halt, (pausingRun files halt).settings pausingWorld =
      .ok (pausingSettings files halt) := fun _ _ => rfl
  have made : ∀ files halt, (pausingSettings files halt).logger pausingWorld.disk .empty =
      .ok (⟨0, programName⟩, (Journal.empty.create programName .warning [.console]).2,
        pausingWorld.disk) := by
    rintro files (_ | _) <;> rfl
  have spared : ∀ files halt path, (pausingSettings files halt).Spares pausingWorld.disk path := by
    intro files halt path log named
    have noLog : (pausingSettings files halt).getD Settings.logFileKey .null = .null := by
      cases halt <;> rfl
    rw [noLog] at named
    cases named
  have holds : ∀ file ∈ [("one", "+wf:*\r\n\n-wf:*\n"), ("two", "+wd:*"),
      ("both", "+wf:*\r\n\n-wf:*\n+wd:*")],
      (pausingSettings ["both"] false).HoldsText pausingWorld.disk file.1 file.2 := by
    intro file hfile
    simp only [List.mem_cons, List.not_mem_nil, or_false] at hfile
    obtain rfl | rfl | rfl := hfile
    · exact ⟨_, "utf-8", .utf8, rfl, rfl, by decide, by decide +kernel⟩
    · exact ⟨_, "utf-8", .utf8, rfl, rfl, by decide, by decide +kernel⟩
    · exact ⟨_, "utf-8", .utf8, rfl, rfl, by decide, by decide +kernel⟩
  obtain ⟨prints, -, reads, -⟩ :=
    rule_files_as_one_list rfl (loaded ["one", "two"] true) (made _ _)
  obtain ⟨-, -, -, split⟩ := rule_files_as_one_list rfl (loaded ["both"] false) (made _ _)
  have inTurn := reads [["+wf:*", "", "-wf:*"], ["+wd:*"]] (fun path _ => spared _ _ path)
    (.cons (by decide +kernel) (.cons (by decide +kernel) .nil))
  let last := Ruling.run ⟨false, none⟩ pausingWorld.tree (some (.path "/r"))
    (some (.lines [some "+wf:*", some "+wd:*"])) (.start .empty ())
  have ran : last.1 = .ok () := by decide +kernel
  have files : last.2.files.toList = ["/r/a"] := by decide +kernel
  have directories : last.2.directories.toList = ["/r/d"] := by decide +kernel
  obtain ⟨code, output⟩ := prints _ inTurn .empty last.2 (Prod.ext ran rfl)
  have boundary : Text.LineEnd "+wf:*\r\n\n-wf:*\n".toList "+wd:*".toList :=
    ⟨fun c hc => Option.some.inj hc ▸ rfl, by decide⟩
  refine ⟨code, ?_, ?_⟩
  · rw [output, PathSet.sorted, PathSet.sorted, files, directories, PathSet.sortedTexts,
      PathSet.sortedTexts, List.mergeSort_singleton, List.mergeSort_singleton]
    rfl
  · refine split rfl [] [] "both" "one" "two" _ _ rfl (fun path hp => ⟨spared _ _ path, ?_⟩)
      (holds ("both", _) (by simp)) (holds ("one", _) (by simp)) (holds ("two", _) (by simp))
      boundary
    simp only [List.mem_cons, List.not_mem_nil, or_false] at hp
    obtain rfl | rfl | rfl := hp <;> decide

end Runs

end TreeSift