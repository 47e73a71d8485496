/-
  TreeSift.Proofs.Rules.Nesting — contexts in nested blocks and runs.

  A block pushes a context and drops the one that was pushed last, however it ends
  (`Session.within`); a run is such a block around its lines (`runBelow_eq_within`). What is
  done inside is made of blocks and runs again, of requests to the loggers, and of ends of
  any kind (`Nested`), and all of it leaves the pushed contexts as they were
  (`Nested.keepsFrames`). So the context that a run has pushed is the innermost one whenever
  the run writes a record of its own, and the record names the root of this run, once
  (`names_write`). What a custom rule writes in between is not the run's: it is left out by
  taking the records from one line that is handed over to the next (`Stretches`).

    §1 Frames   `KeepsFrames`, `Session.within`, `runBelow_eq_within`
    §2 Lines    `keepsFrames_runLines`
    §3 Nesting  `Nested`, `Nested.keepsFrames`
    §4 Records  `Record.NamesOnce`, `Journal.Names`, `names_write`
    §5 Runs     `Stretches`, `stretches_runLines`, `nested_frames_and_roots`
-/
import TreeSift.Proofs.Journal.Merging
import TreeSift.Proofs.Rules.Delegation

namespace TreeSift

variable {σ : Type}

/-! ## §1 Frames -/

/-- What is done leaves the pushed contexts as they were, whatever end it comes to. -/
def KeepsFrames (d : Session σ → Outcome σ) : Prop :=
  ∀ s, (d s).2.journal.frames = s.journal.frames

/-- A block: a context is pushed, something is done, and the context that was pushed last is
dropped, whatever end this comes to. -/
def Session.within (c : Context) (body : Session σ → Outcome σ) (s : Session σ) : Outcome σ :=
  let (result, left) := body { s with journal := s.journal.push c }
  (result, left.leaving)

theorem keepsFrames_within {body : Session σ → Outcome σ} (inside : KeepsFrames body)
    (c : Context) : KeepsFrames (Session.within c body) := by
  intro s
  calc (body { s with journal := s.journal.push c }).2.journal.frames.dropLast
      = (s.journal.push c).frames.dropLast := congrArg List.dropLast (inside _)
    _ = s.journal.frames := congrArg Journal.frames (s.journal.pop_push c)

/-- A run below a root is a block around its lines, with the root as its context. -/
theorem Ruling.runBelow_eq_within (g : Ruling σ) (t : Tree) (root : String) (rules : RuleList)
    (s : Session σ) :
    g.runBelow t root rules s =
      Session.within [("root", .text root)] (g.runLines t root rules.toLines)
        { s with journal := (s.journal.obtain programName).2 } := rfl

/-! ## §2 Lines -/

theorem Rule.keepsFrames_apply (r : Rule) (t : Tree) (root : String) :
    KeepsFrames (r.apply t root : Session σ → Outcome σ) := by
  intro s
  unfold apply searchRecorded
  cases search t r.method (r.request root) with
  | error e => rfl
  | ok found =>
    dsimp only
    rw [Journal.frames_debugShared, journal_gather]
    exact s.journal.frames_debugShared ..

namespace Ruling

variable {g : Ruling σ} {t : Tree} {root : String}

/-- The custom rule keeps the pushed contexts at those of some lines that are left to it. -/
def CustomKeeps (g : Ruling σ) (root : String) (lines : List (Option String)) : Prop :=
  ∀ custom ∈ g.custom, ∀ raw ∈ lines, IsCustom raw →
    KeepsFrames (custom root (Text.trim (raw.getD "")))

theorem customKeeps_cons {raw : Option String} {rest : List (Option String)} :
    g.CustomKeeps root (raw :: rest) ↔ g.CustomKeeps root [raw] ∧ g.CustomKeeps root rest := by
  constructor
  · intro kept
    refine ⟨fun custom hc line hline => ?_, fun custom hc line hline => ?_⟩
    · exact kept custom hc line (List.mem_singleton.1 hline ▸ List.mem_cons_self)
    · exact kept custom hc line (List.mem_cons_of_mem _ hline)
  · rintro ⟨first, others⟩ custom hc line hline
    rcases List.mem_cons.1 hline with rfl | later
    · exact first custom hc line List.mem_cons_self
    · exact others custom hc line later

theorem keepsFrames_runLine {raw : Option String} (speaks : ¬ SaysNothing raw)
    (kept : g.CustomKeeps root [raw]) : KeepsFrames (g.runLine t root (Text.trim (raw.getD ""))) := by
  intro s
  unfold runLine
  rw [parse?_trim]
  cases written : Rule.parse? raw with
  | some r => exact r.keepsFrames_apply t root s
  | none =>
    have said : (s.delegating (Text.trim (raw.getD ""))).journal.frames = s.journal.frames :=
      Journal.frames_write ..
    unfold delegate
    cases hc : g.custom with
    | none => exact said
    | some custom =>
      exact (kept custom hc raw List.mem_cons_self ⟨speaks, written⟩ _).trans said

/-- Lines keep the pushed contexts, those of a run that halts or fails too. -/
theorem keepsFrames_runLines {lines : List (Option String)} (kept : g.CustomKeeps root lines) :
    KeepsFrames (g.runLines t root lines) := by
  induction lines with
  | nil => exact fun s => rfl
  | cons raw rest ih =>
    intro s
    obtain ⟨keptHere, keptLater⟩ := customKeeps_cons.1 kept
    have later : KeepsFrames (g.runLines t root rest) := ih keptLater
    rw [runLines]
    split
    · split
      · exact Journal.frames_write ..
      · exact later s
    · rename_i speaks
      rw [isIgnorable_iff_saysNothing] at speaks
      have here := keepsFrames_runLine (t := t) speaks keptHere s
      cases hu : g.runLine t root (Text.trim (raw.getD "")) s with
      | mk result u =>
        rw [hu] at here
        cases result with
        | error e => exact here
        | ok => exact (later u).trans here

theorem keepsFrames_run {place : Option Root} {rules : Option RuleList}
    (kept : ∀ root list, check t place rules = .ok (root, list) →
      g.CustomKeeps root list.toLines) : KeepsFrames (g.run t place rules) := by
  intro s
  rw [run]
  cases checked : check t place rules with
  | error e => rfl
  | ok found =>
    obtain ⟨root, list⟩ := found
    have inside : KeepsFrames (g.runLines t root list.toLines) :=
      keepsFrames_runLines (kept root list checked)
    dsimp only
    rw [runBelow_eq_within, keepsFrames_within inside]
    exact s.journal.frames_obtain _

end Ruling

/-! ## §3 Nesting -/

/-- What can be done inside a block or by a custom rule: blocks and runs nested in any way,
with anything else that leaves the pushed contexts to them. -/
inductive Nested : (Session σ → Outcome σ) → Prop
  /-- To end, normally or with a failure. -/
  | ends (result : Except Failure Unit) : Nested fun s => (result, s)
  /-- To change the sets and what is remembered. -/
  | holds (files directories : PathSet) (memory : σ) :
      Nested fun s => (.ok (), ⟨files, directories, s.journal, memory⟩)
  /-- To ask the loggers for something. -/
  | logs (step : Journal.Step) :
      Nested fun s => (.ok (), { s with journal := step.carryOut s.journal })
  /-- A block. -/
  | block (c : Context) {body : Session σ → Outcome σ} (inside : Nested body) :
      Nested (Session.within c body)
  /-- A run with a custom rule that does such things at the lines that are left to it. -/
  | run (g : Ruling σ) (t : Tree) (place : Option Root) (rules : Option RuleList)
      (inside : ∀ custom ∈ g.custom, ∀ root list, Ruling.check t place rules = .ok (root, list) →
        ∀ raw ∈ list.toLines, IsCustom raw → Nested (custom root (Text.trim (raw.getD "")))) :
      Nested (g.run t place rules)
  /-- One thing after the other: what comes next may depend on how the first one ended and
  on what it has left, and so may catch its failure or pass it on. -/
  | next {first : Session σ → Outcome σ}
      {onward : Except Failure Unit → Session σ → Session σ → Outcome σ} (before : Nested first)
      (after : ∀ result s, Nested (onward result s)) :
      Nested fun s => onward (first s).1 (first s).2 (first s).2

/-- All that can be done keeps the pushed contexts. -/
theorem Nested.keepsFrames {d : Session σ → Outcome σ} (nested : Nested d) : KeepsFrames d := by
  -- The induction is on how things are nested, for every session at once: what a custom rule
  -- does inside a run is met in other sessions than the one in which the run begins.
  induction nested with
  | ends result => exact fun s => rfl
  | holds files directories memory => exact fun s => rfl
  | logs step => exact fun s => step.frames_carryOut s.journal
  | block c inside ih => exact keepsFrames_within ih c
  | run g t place rules inside ih =>
    exact Ruling.keepsFrames_run fun root list checked custom hc raw hraw left =>
      ih custom hc root list checked raw hraw left
  | next before after first onward => exact fun s => (onward _ _ _).trans (first s)

/-! ## §4 Records -/

/-- A record has one field for the root, with this root. -/
def Record.NamesOnce (root : String) (r : Record) : Prop :=
  (r.context.filter fun field => field.1 = "root") = [("root", .text root)]

namespace Journal

variable {root : String} {j k l : Journal}

/-- More has been written, and each new record names the root once. -/
def Names (root : String) (j k : Journal) : Prop :=
  ∃ more, k.written = j.written ++ more ∧ ∀ entry ∈ more, entry.2.NamesOnce root

theorem Names.of_written_eq (same : k.written = j.written) : j.Names root k :=
  ⟨[], by rw [same, List.append_nil], by simp⟩

theorem Names.refl (root : String) (j : Journal) : j.Names root j := .of_written_eq rfl

theorem Names.trans (h : j.Names root k) (h' : k.Names root l) : j.Names root l := by
  obtain ⟨first, hk, named⟩ := h
  obtain ⟨second, hl, named'⟩ := h'
  refine ⟨first ++ second, by rw [hl, hk, List.append_assoc], fun entry mem => ?_⟩
  exact (List.mem_append.1 mem).elim (named entry) (named' entry)

/-- The context that was pushed last is that of a run. -/
def Innermost (root : String) (j : Journal) : Prop :=
  ∃ outer, j.frames = outer ++ [[("root", .text root)]]

theorem Innermost.of_frames_eq (inner : j.Innermost root) (same : k.frames = j.frames) :
    k.Innermost root := by
  obtain ⟨outer, frames⟩ := inner
  exact ⟨outer, same.trans frames⟩

/-- What a record shows as root: what it says of it itself, else the innermost root. -/
theorem Innermost.get?_root (inner : j.Innermost root) {context : Context}
    (own : ∀ v ∈ Keyed.get? "root" context.reverse, v = .text root) :
    Keyed.get? "root" (Context.merge (j.frames ++ [context])) = some (.text root) := by
  obtain ⟨outer, frames⟩ := inner
  rw [frames, Context.get?_merge_concat, Context.get?_merge_concat]
  cases said : Keyed.get? "root" context.reverse with
  | none => rfl
  | some v => rw [own v said, Option.some_or]

/-- A record names the innermost root once, unless it speaks of another root itself. -/
theorem names_write (inner : j.Innermost root) (name : String) (level : Level) (message : String)
    {context : Context} (own : ∀ v ∈ Keyed.get? "root" context.reverse, v = .text root)
    (traced : Bool) : j.Names root (j.write name level message context traced) := by
  rcases j.write_cases name level message context traced with same | ⟨c, -, grown⟩
  · rw [same]
    exact .refl root j
  · rw [grown]
    refine ⟨_, rfl, fun entry mem => ?_⟩
    obtain ⟨sink, -, rfl⟩ := List.mem_map.1 mem
    exact Context.filter_merge (inner.get?_root own)

theorem written_obtain (j : Journal) (name : String) : (j.obtain name).2.written = j.written := by
  rcases j.obtain_cases name with same | ⟨logger, made⟩
  · rw [same]
  · rw [made]
    rfl

theorem names_debugShared (inner : j.Innermost root) (message : String) {context : Context}
    (own : ∀ v ∈ Keyed.get? "root" context.reverse, v = .text root) :
    j.Names root (j.debugShared message context) :=
  (Names.of_written_eq (j.written_obtain programName)).trans
    (names_write (inner.of_frames_eq (j.frames_obtain programName)) _ _ _ own _)

end Journal

/-- What a search has found is for the root that it was given. -/
theorem root_of_search {t : Tree} {method : Method} {root pattern : String} {target : Target}
    {found : Finding} (h : search t method (.of root pattern target) = .ok found) :
    found.inquiry.root = root := by
  rw [search_of] at h
  obtain ⟨checked, valid, h⟩ := Fallible.bind_eq_ok.1 h
  obtain ⟨paths, -, h⟩ := Fallible.bind_eq_ok.1 h
  rw [← Except.ok.inj h]
  exact (checkRoot_eq_ok valid).1

/-- A rule writes records that name the root below which it is applied. -/
theorem Rule.names_apply (r : Rule) (t : Tree) {root : String} {s : Session σ}
    (inner : s.journal.Innermost root) :
    s.journal.Names root (r.apply t root s).2.journal := by
  unfold apply searchRecorded
  cases hs : search t r.method (r.request root) with
  | error e => exact .refl root _
  | ok found =>
    have searched : s.journal.Names root (found.record r.method s.journal) := by
      refine Journal.names_debugShared inner _ ?_
      have same : found.inquiry.root = root := root_of_search hs
      simp [Finding.context, Keyed.get?, same]
    dsimp only
    rw [journal_gather]
    refine searched.trans (Journal.names_debugShared ?_ _ ?_)
    · exact inner.of_frames_eq (s.journal.frames_debugShared ..)
    · simp [Rule.context, Keyed.get?]

/-! ## §5 Runs -/

/-- What a run writes itself names its root: from where it begins to the first line that it
hands over, from what is left there to the next such line, and in the end from what is left
at the last one. -/
def Stretches (g : Ruling σ) (root : String) : Session σ → List (Handed σ) → Session σ → Prop
  | s, [], last => s.journal.Names root last.journal
  | s, h :: rest, last =>
    h.root = root ∧ s.journal.Names root h.session.journal ∧
      Stretches g root (g.delegate h.root h.line h.session).2 rest last

/-- Stretches up to a session and from it on. -/
theorem Stretches.append {g : Ruling σ} {root : String} {s u v : Session σ}
    {first second : List (Handed σ)} (before : Stretches g root s first u)
    (after : Stretches g root u second v) : Stretches g root s (first ++ second) v := by
  induction first generalizing s with
  | nil =>
    cases second with
    | nil => exact Journal.Names.trans before after
    | cons h rest => exact ⟨after.1, Journal.Names.trans before after.2.1, after.2.2⟩
  | cons h rest ih => exact ⟨before.1, before.2.1, ih before.2.2⟩

namespace Ruling

variable {g : Ruling σ} {t : Tree} {root : String}

theorem stretches_runLine (t : Tree) (line : String) {s : Session (σ × List (Handed σ))}
    (inner : s.journal.Innermost root) :
    ∃ more, (g.listed.runLine t root line s).2.memory.2 = s.memory.2 ++ more ∧
      Stretches g root s.unlisted more (g.runLine t root line s.unlisted).2 := by
  have said : s.unlisted.journal.Names root (s.unlisted.delegating line).journal :=
    Journal.names_write inner _ _ _ (by simp [Keyed.get?]) _
  unfold runLine
  cases Rule.parse? (some line) with
  | some r =>
    refine ⟨[], ?_, r.names_apply t inner⟩
    rw [List.append_nil]
    exact congrArg Prod.snd (r.memory_apply t root s)
  | none =>
    cases hc : g.custom with
    | none =>
      refine ⟨[], ?_, ?_⟩
      · simp only [delegate, listed, hc, List.append_nil]
        rfl
      · simp only [delegate, hc]
        exact said
    | some c =>
      refine ⟨[⟨root, line, s.unlisted.delegating line⟩], ?_, rfl, said, ?_⟩
      · simp only [delegate, listed, hc]
        rfl
      · exact .refl root _

/-- Lines write records that name the root, between what they hand over, also when they halt
or fail. -/
theorem stretches_runLines {lines : List (Option String)} (kept : g.CustomKeeps root lines)
    {s : Session (σ × List (Handed σ))} (inner : s.journal.Innermost root) :
    ∃ more, (g.listed.runLines t root lines s).2.memory.2 = s.memory.2 ++ more ∧
      Stretches g root s.unlisted more (g.runLines t root lines s.unlisted).2 := by
  have halts : g.listed.haltOnBlank = g.haltOnBlank := rfl
  induction lines generalizing s with
  | nil => exact ⟨[], (List.append_nil _).symm, .refl root _⟩
  | cons raw rest ih =>
    obtain ⟨keptHere, keptLater⟩ := customKeeps_cons.1 kept
    rw [runLines, runLines, halts]
    split
    · split
      · exact ⟨[], (List.append_nil _).symm,
          Journal.names_write inner _ _ _ (by simp [Keyed.get?]) _⟩
      · exact ih keptLater inner
    · rename_i speaks
      rw [isIgnorable_iff_saysNothing] at speaks
      have frames := keepsFrames_runLine (t := t) speaks keptHere s.unlisted
      obtain ⟨first, grown, stretch⟩ :=
        stretches_runLine (g := g) t (Text.trim (raw.getD "")) inner
      -- The line ends as it does when nothing is listed, so one case split serves both runs.
      have same := unlisted_runLine (g := g) t root (Text.trim (raw.getD "")) s
      rw [← same] at frames stretch ⊢
      cases hu : g.listed.runLine t root (Text.trim (raw.getD "")) s with
      | mk result u =>
        rw [hu] at frames grown stretch
        cases result with
        | error e => exact ⟨first, grown, stretch⟩
        | ok =>
          obtain ⟨second, grown', stretch'⟩ := ih keptLater (inner.of_frames_eq frames)
          refine ⟨first ++ second, ?_, stretch.append stretch'⟩
          exact grown'.trans ((congrArg (· ++ second) grown).trans (List.append_assoc ..))

theorem stretches_run {place : Option Root} (valid : checkPlace t place = .ok root)
    {rules : RuleList} (kept : g.CustomKeeps root rules.toLines) (s : Session σ) :
    Stretches g root s (g.handed t place rules s) (g.run t place (some rules) s).2 := by
  have inner : ((s.remembering (s.memory, ([] : List (Handed σ)))).entering root).journal.Innermost
      root := ⟨_, rfl⟩
  obtain ⟨more, grown, stretch⟩ := stretches_runLines (t := t) kept inner
  have list : g.handed t place rules s = more := by
    rw [handed, run_of_checkPlace valid]
    exact grown
  -- To push the root and to drop it writes nothing.
  have entered : Stretches g root s [] (s.entering root) :=
    .of_written_eq (s.journal.written_obtain programName)
  have left : ∀ u : Session σ, Stretches g root u [] u.leaving := fun u => .of_written_eq rfl
  rw [list, run_of_checkPlace valid]
  exact List.append_nil more ▸ entered.append (stretch.append (left _))

end Ruling

/-- **Contexts are balanced, and every record of a run names its root.** Let blocks and runs
be nested in any way, with anything in between and whatever ends they come to. Then the
pushed contexts are afterwards what they were before. And let a run have checked its place
and found a root there, with a custom rule that does such things at the lines that are left
to it. Then each record that the run writes itself, with those of the searches for its rules,
has one field for the root, with this root: all that is written before the first line that
is handed over, from what is left at one such line to the next, and after the last one, until
the run succeeds, halts or fails. -/
theorem nested_frames_and_roots :
    (∀ d : Session σ → Outcome σ, Nested d →
      ∀ s, (d s).2.journal.frames = s.journal.frames) ∧
    (∀ (g : Ruling σ) (t : Tree) (place : Option Root) (rules : RuleList) (root : String),
      Ruling.checkPlace t place = .ok root →
      (∀ custom ∈ g.custom, ∀ raw ∈ rules.toLines, IsCustom raw →
        Nested (custom root (Text.trim (raw.getD "")))) →
      ∀ s, Stretches g root s (g.handed t place rules s) (g.run t place (some rules) s).2) := by
  refine ⟨fun d nested => nested.keepsFrames, ?_⟩
  intro g t place rules root valid inside s
  exact Ruling.stretches_run valid
    (fun custom hc raw hraw left => (inside custom hc raw hraw left).keepsFrames) s

/-- Two directories to search. -/
def twoRoots : Tree := .ofPlaces [("/r/a", .file), ("/s/b", .file)]

/-- A custom rule that fails at every line. -/
def refuser : CustomRule Unit := fun _ line s => (.error (.custom line), s)

/-- A custom rule that fails at one line; at any other it runs a list below another root, in
a block of its own, and goes on although this list fails. -/
def digger : CustomRule Unit := fun _ line =>
  if line = "stop" then fun s => (.error (.custom line), s)
  else fun s => (.ok (), (Session.within [("step", .text line)]
    (Ruling.run ⟨false, some refuser⟩ twoRoots (some (.path "/s"))
      (some (.lines [some "+wf:*", some "no"]))) s).2)

theorem nested_digger (root line : String) : Nested (digger root line) := by
  unfold digger
  split
  · exact .ends _
  · have inside : Nested (Session.within [("step", .text line)]
        (Ruling.run ⟨false, some refuser⟩ twoRoots (some (.path "/s"))
          (some (.lines [some "+wf:*", some "no"])))) :=
      .block _ (.run _ _ _ _ fun _ hc _ _ _ raw _ _ => Option.some.inj hc ▸ .ends _)
    have caught : ∀ (_ : Except Failure Unit) (_ : Session Unit),
        Nested fun s : Session Unit => (.ok (), s) := fun _ _ => .ends (.ok ())
    exact .next inside caught

/-- A session inside a block that has a root of its own, with a logger that writes all. -/
def watchedSession : Session Unit :=
  let (logger, journal) := Journal.empty.create programName .debug [.kept]
  .start ((journal.share (some logger)).push [("root", .text "?")]) ()

/-- A run that hands a line over, goes on, and fails at another such line. -/
def diggingRun : Outcome Unit :=
  Ruling.run ⟨false, some digger⟩ twoRoots (some (.path "/r"))
    (some (.lines [some "dig", some "+wd:*", some "stop", some "+wf:*"])) watchedSession

/-- Two runs that fail, one within the other, in blocks: the one frame around them is left,
and each record shows the root of its own run. -/
theorem digging_run_names_roots :
    diggingRun.1 = .error (.custom "stop") ∧
    diggingRun.2.journal.frames = [[("root", .text "?")]] ∧
    Stretches ⟨false, some digger⟩ "/r" watchedSession
      (Ruling.handed ⟨false, some digger⟩ twoRoots (some (.path "/r"))
        (.lines [some "dig", some "+wd:*", some "stop", some "+wf:*"]) watchedSession)
      diggingRun.2 ∧
    diggingRun.2.journal.written.map (fun e => (e.2.message, Keyed.get? "root" e.2.context)) =
      [("Delegating custom rule", some (.text "/r")),
        ("Wildcard search complete", some (.text "/s")), ("Applied rule", some (.text "/s")),
        ("Delegating custom rule", some (.text "/s")),
        ("Wildcard search complete", some (.text "/r")), ("Applied rule", some (.text "/r")),
        ("Delegating custom rule", some (.text "/r"))] := by
  obtain ⟨balanced, named⟩ := nested_frames_and_roots (σ := Unit)
  have digs : ∀ custom ∈ some digger, ∀ root line, Nested (custom root line) :=
    fun custom hc root line => Option.some.inj hc ▸ nested_digger root line
  refine ⟨by decide +kernel, ?_, ?_, by decide +kernel⟩
  · exact balanced _ (.run _ _ _ _ fun custom hc root _ _ raw _ _ => digs custom hc root _)
      watchedSession
  · exact named _ _ _ _ _ (by decide +kernel) (fun custom hc raw _ _ => digs custom hc _ _) _

end TreeSift
