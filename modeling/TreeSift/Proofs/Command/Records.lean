/-
  TreeSift.Proofs.Command.Records — where records go, and what they leave alone.

  A run makes one logger, and all that rules write goes to the sinks that this logger
  was given (`Journal.Confined`). So the only file that a run changes is the one that
  records go to, if there is one: reading any other file gives the same however many
  records have been written by then (`readRules_afterRecords`).

    §1 Journals  `Journal.Confined`
    §2 Rules     `runLines_keeps_journal`, `confined_run`
    §3 Disks     `Settings.Spares`, `readRules_afterRecords`
-/
import TreeSift.Command.Run
import TreeSift.Proofs.Journal.Writing
import TreeSift.Proofs.Rules.Composition

namespace TreeSift

/-! ## §1 Journals -/

namespace Journal

/-- The shared logger is that of the program, and what it has written and will write
goes to some sinks. -/
structure Confined (sinks : List Sink) (j : Journal) : Prop where
  ready : j.IsReady
  written : ∀ entry ∈ j.written, entry.1 ∈ sinks
  channel : ∀ c, j.channel? programName = some c → c.sinks ⊆ sinks

variable {sinks : List Sink} {j : Journal}

theorem Confined.write (h : j.Confined sinks) (level : Level) (message : String)
    (context : Context) (traced : Bool) :
    (j.write programName level message context traced).Confined sinks := by
  rcases j.write_cases programName level message context traced with same | ⟨c, hc, grown⟩
  · rw [same]
    exact h
  · rw [grown]
    refine ⟨h.ready, fun entry hentry => ?_, h.channel⟩
    rcases List.mem_append.1 hentry with old | new
    · exact h.written entry old
    · obtain ⟨sink, hsink, rfl⟩ := List.mem_map.1 new
      exact h.channel c hc hsink

theorem Confined.debug (h : j.Confined sinks) (message : String) (context : Context) :
    (j.debug programName message context).Confined sinks := h.write ..

theorem Confined.debugShared (h : j.Confined sinks) (message : String) (context : Context) :
    (j.debugShared message context).Confined sinks := by
  rw [Journal.debugShared, h.ready.obtain]
  exact h.debug message context

theorem Confined.push (h : j.Confined sinks) (c : Context) : (j.push c).Confined sinks :=
  ⟨h.ready.push c, h.written, h.channel⟩

theorem Confined.pop (h : j.Confined sinks) : j.pop.Confined sinks :=
  ⟨h.ready.pop, h.written, h.channel⟩

/-- A journal in which nothing has been written, when its one logger is shared. -/
theorem confined_create (level : Level) (sinks : List Sink) :
    (((empty.create programName level sinks).2.share
      (some (empty.create programName level sinks).1))).Confined sinks := by
  refine ⟨⟨_, rfl, rfl⟩, fun entry none => absurd none (by simp [create, share, setChannel, empty]),
    fun c hc => ?_⟩
  obtain rfl : (⟨level, sinks⟩ : Channel) = c := by
    have made : (empty.setChannel programName ⟨level, sinks⟩).channel? programName =
        some ⟨level, sinks⟩ := channel?_setChannel_self ..
    exact Option.some.inj (made.symm.trans hc)
  exact List.Subset.refl _

end Journal

/-! ## §2 Rules -/

namespace Ruling

variable {σ : Type} {g : Ruling σ} {t : Tree} {root : String}

/-- Without a custom rule, lines keep what each kind of record keeps that they write. -/
theorem runLines_keeps_journal (noCustom : g.custom = none) {P : Journal → Prop}
    (own : ∀ j message context, P j → P (j.debug programName message context))
    (shared : ∀ j message context, P j → P (j.debugShared message context))
    (lines : List (Option String)) (s : Session σ) (h : P s.journal) :
    P (g.runLines t root lines s).2.journal := by
  have apply : ∀ (r : Rule) (s : Session σ), P s.journal → P (r.apply t root s).2.journal := by
    intro r s h
    unfold Rule.apply searchRecorded
    cases search t r.method (r.request root) with
    | error e => exact h
    | ok found =>
      dsimp only
      rw [Rule.journal_gather]
      exact shared _ _ _ (shared _ _ _ h)
  induction lines generalizing s with
  | nil => exact h
  | cons raw rest ih =>
    rw [runLines]
    split
    · split
      · exact own _ _ _ h
      · exact ih s h
    · have here : P (g.runLine t root (Text.trim (raw.getD "")) s).2.journal := by
        unfold runLine
        cases Rule.parse? (some (Text.trim (raw.getD ""))) with
        | some r => exact apply r s h
        | none =>
          simp only [delegate, noCustom]
          exact own _ _ _ h
      split
      · rename_i hnext
        rw [hnext] at here
        exact here
      · rename_i hnext
        rw [hnext] at here
        exact ih _ here

/-- What a list of rules writes goes to the sinks of the logger. -/
theorem confined_run (noCustom : g.custom = none) {sinks : List Sink} (place : Option Root)
    (rules : RuleList) (s : Session σ) (h : s.journal.Confined sinks) :
    (g.run t place (some rules) s).2.journal.Confined sinks := by
  rw [run_some]
  cases checkPlace t place with
  | error e => exact h
  | ok root =>
    have entered : (s.entering root).journal.Confined sinks := by
      rw [Session.entering, h.ready.obtain]
      exact h.push _
    have left : (g.runLines t root rules.toLines (s.entering root)).2.journal.Confined sinks :=
      runLines_keeps_journal noCustom (fun _ message context hj => hj.debug message context)
        (fun _ message context hj => hj.debugShared message context) rules.toLines _ entered
    exact left.pop

end Ruling

/-! ## §3 Disks -/

namespace Disk

/-- The names under which a disk keeps what is written to a path. -/
def key (path : String) : List String := pathStart path ++ pathParts path

/-- Whether a path has been written to. -/
def Holds (d : Disk) (path : String) : Prop := ∃ content, (key path, some content) ∈ d.entries

theorem holds_write (d : Disk) (path : String) (content : ByteArray) :
    (d.write path (some content)).Holds path := ⟨content, by simp [write, key]⟩

theorem Holds.write {d : Disk} {path : String} (h : d.Holds path) (other : String)
    (content : Option ByteArray) : (d.write other content).Holds path := by
  obtain ⟨kept, hkept⟩ := h
  exact ⟨kept, by simp [Disk.write, hkept]⟩

variable {d : Disk} {path : String}

theorem entries_write (d : Disk) (path : String) (content : Option ByteArray) :
    (d.write path content).entries = d.entries ++ [(key path, content)] := rfl

/-- Writing to a file again makes no directories. -/
theorem isDirectory_write (held : d.Holds path) (content : ByteArray) (names : List String) :
    (d.write path (some content)).isDirectory names = d.isDirectory names := by
  obtain ⟨kept, hkept⟩ := held
  rw [isDirectory, isDirectory, entries_write, List.any_append, Bool.eq_iff_iff]
  simp only [Bool.or_eq_true]
  refine or_congr_right ⟨fun found => found.elim id fun new => ?_, Or.inl⟩
  exact List.any_eq_true.2 ⟨_, hkept, by simpa using new⟩

theorem follow_congr {d e : Disk} (same : ∀ names, d.isDirectory names = e.isDirectory names)
    (here parts : List String) : d.follow here parts = e.follow here parts := by
  induction parts generalizing here with
  | nil => rfl
  | cons name rest ih => simp only [follow, same, ih]

theorem names?_write (held : d.Holds path) (content : ByteArray) (other : String) :
    (d.write path (some content)).names? other = d.names? other := by
  rw [names?, names?, follow_congr (isDirectory_write held content)]

/-- Under other names there is what was there before. -/
theorem contentOf_write_of_ne (content : ByteArray) {names : List String}
    (ne : key path ≠ names) :
    (d.write path (some content)).contentOf names = d.contentOf names := by
  rw [contentOf, contentOf, entries_write, List.reverse_append]
  simp [ne]

/-- Writing to a file again leaves all other files as they are. -/
theorem look_write (held : d.Holds path) (content : ByteArray) {other : String}
    (apart : d.names? other ≠ some (key path)) :
    (d.write path (some content)).look other = d.look other := by
  rw [look, look, names?_write held]
  cases hn : d.names? other with
  | none => rfl
  | some names =>
    have ne : key path ≠ names := fun same => apart (same ▸ hn)
    dsimp only
    rw [contentOf_write_of_ne content ne]
    rfl

/-- Records that go to the console and to one file leave all other files as they are. -/
theorem look_afterRecords (time : String) (held : d.Holds path) {other : String}
    (apart : d.names? other ≠ some (key path)) (written : List (Sink × Record))
    (confined : ∀ entry ∈ written, entry.1 ∈ [Sink.console, .file path]) :
    (d.afterRecords time written).look other = d.look other := by
  induction written generalizing d with
  | nil => rfl
  | cons entry rest ih =>
    obtain ⟨sink, record⟩ := entry
    have later := fun e he => confined e (List.mem_cons_of_mem _ he)
    have here : sink = .console ∨ sink = .file path := by
      simpa using confined _ List.mem_cons_self
    rw [afterRecords, List.foldl_cons, ← afterRecords]
    rcases here with rfl | rfl
    · exact ih held apart later
    · dsimp only
      rw [ih (held.write _ _) (by rwa [names?_write held]) later, look_write held _ apart]

/-- Records that go to the console leave all files as they are. -/
theorem afterRecords_console (d : Disk) (time : String) (written : List (Sink × Record))
    (confined : ∀ entry ∈ written, entry.1 ∈ [Sink.console]) :
    d.afterRecords time written = d := by
  induction written with
  | nil => rfl
  | cons entry rest ih =>
    obtain ⟨sink, record⟩ := entry
    obtain rfl : sink = .console := by simpa using confined _ List.mem_cons_self
    rw [afterRecords, List.foldl_cons, ← afterRecords]
    exact ih fun e he => confined e (List.mem_cons_of_mem _ he)

end Disk

namespace Settings

/-- A path leads elsewhere than to the file that records go to, if there is one. -/
def Spares (s : Settings) (d : Disk) (path : String) : Prop :=
  ∀ log, (s.getD logFileKey .null).pathText? = some log → log ≠ "" →
    d.names? path ≠ some (Disk.key log)

/-- A file for records is opened at a path, and is there then. -/
theorem openLog_eq_ok {d opened : Disk} {v : Value} {log : String}
    (h : openLog d v = .ok (log, opened)) : v.pathText? = some log ∧ opened.Holds log := by
  rw [openLog] at h
  split at h
  · cases h
  · rename_i path written
    split at h
    · cases h
    · split at h
      · cases h
      · split at h
        · cases h
        · split at h
          · cases h
          · obtain ⟨rfl, rfl⟩ := Prod.mk.inj (Except.ok.inj h)
            exact ⟨written, Disk.holds_write ..⟩

/-- What counts as something is not the empty path. -/
theorem pathText?_ne_empty {v : Value} (truthy : v.isTruthy = true) :
    v.pathText? ≠ some "" := by
  intro empty
  cases v with
  | scalar c =>
    cases c with
    | text s =>
      obtain rfl := Option.some.inj empty
      exact absurd truthy (by decide)
    | bytes bs =>
      rw [Value.pathText?, String.fromUTF8?] at empty
      split at empty
      · have bytes : (⟨bs.toArray⟩ : ByteArray) = .empty :=
          congrArg String.toByteArray (Option.some.inj empty)
        have none : bs = [] := congrArg (·.data.toList) bytes
        rw [none] at truthy
        exact absurd truthy (by decide)
      · cases empty
    | _ => cases empty
  | _ => cases empty

/-- A logger writes to the console, and to a file if the settings name one. -/
theorem sinks_eq_ok {s : Settings} {d opened : Disk} {sinks : List Sink}
    (h : s.sinks d = .ok (sinks, opened)) :
    sinks = [.console] ∨ ∃ log, (s.getD logFileKey .null).pathText? = some log ∧ log ≠ "" ∧
      sinks = [.console, .file log] ∧ opened.Holds log := by
  rw [Settings.sinks] at h
  dsimp only at h
  split at h
  · rename_i truthy
    obtain ⟨⟨log, there⟩, made, same⟩ := Fallible.map_eq_ok.1 h
    obtain ⟨rfl, rfl⟩ := Prod.mk.inj same
    obtain ⟨named, held⟩ := openLog_eq_ok made
    refine .inr ⟨log, named, ?_, rfl, held⟩
    rintro rfl
    exact pathText?_ne_empty truthy named
  · obtain ⟨rfl, -⟩ := Prod.mk.inj (Except.ok.inj h)
    exact .inl rfl

/-- What the logger of a run is, and to which sinks it writes. -/
theorem logger_eq_ok {s : Settings} {d opened : Disk} {logger : Logger} {j : Journal}
    (h : s.logger d .empty = .ok (logger, j, opened)) :
    ∃ level sinks, s.sinks d = .ok (sinks, opened) ∧
      Journal.empty.create programName level sinks = (logger, j) := by
  obtain ⟨level, -, h⟩ := Fallible.bind_eq_ok.1 h
  obtain ⟨⟨sinks, there⟩, hs, h⟩ := Fallible.bind_eq_ok.1 h
  obtain ⟨rfl, rfl, rfl⟩ := by simpa using Except.ok.inj h
  exact ⟨level, sinks, Fallible.mapError_eq_ok.1 hs, rfl⟩

theorem readRules_congr (s : Settings) {d e : Disk} {path : String}
    (same : d.look path = e.look path) : s.readRules d path = s.readRules e path := by
  rw [readRules, readRules, ruleFileAt, ruleFileAt, same]

/-- A file of rules to which no records go reads the same at any time. -/
theorem readRules_afterRecords {s : Settings} {d opened : Disk} {sinks : List Sink}
    (made : s.sinks d = .ok (sinks, opened)) {path : String} (spared : s.Spares opened path)
    (time : String) {j : Journal} (confined : j.Confined sinks) :
    s.readRules (opened.afterRecords time j.written) path = s.readRules opened path := by
  apply readRules_congr
  rcases sinks_eq_ok made with rfl | ⟨log, named, ne, rfl, held⟩
  · rw [Disk.afterRecords_console opened time _ confined.written]
  · exact Disk.look_afterRecords time held (spared log named ne) _ confined.written

end Settings

end TreeSift
