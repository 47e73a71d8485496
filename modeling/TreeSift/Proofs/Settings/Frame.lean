/-
  TreeSift.Proofs.Settings.Frame — what a change of settings touches.

  A change works on the layer of its source alone (`held_carryOut_self`,
  `held_carryOut_ne`), so that what a layer is after any number of changes depends on
  the changes of its own source only (`held_after`). From this it follows that changes of
  different sources may trade places, and that no answer depends on the order in which
  the layers were filled. Within its layer a value that is written is seen under its own
  key, and under those keys that lead to the same entry through an alias
  (`set_touches_its_key`).

    §1 Layers  `Change.act`, `held_carryOut_self`, `held_carryOut_ne`
    §2 Runs    `held_after`, `Alike`
    §3 Aliases `Untied`, `UntiedFile`, `untied_load`, `Untied.after`
    §4 Keys    `set_touches_its_key`, `set_through_an_alias`
-/
import TreeSift.Proofs.Document.Shared
import TreeSift.Proofs.Settings.Layers
import TreeSift.Proofs.Settings.Writing
import TreeSift.Settings.Change

namespace TreeSift.Settings

variable {s t : Settings} {key : String} {v : Value} {source : Source}

/-! ## §1 Layers -/

namespace Change

/-- What a change makes of the layer of its source: whether that comes to an end, and
the layer by then. -/
def act (l : Layer) : Change → Except Refusal Unit × Layer
  | set key v _ => ((l.write key v).1.mapError .placing, (l.write key v).2)
  | load d path _ =>
    match Layer.ofFile d path with
    | .error e => (.error (.file e), l)
    | .ok given => (.ok (), given)

/-- Whether a change comes to an end is for the layer of its source to say. -/
theorem carryOut_fst (s : Settings) (c : Change) :
    (c.carryOut s).1 = (c.act (s.held c.source)).1 := by
  cases c with
  | set key v source => rfl
  | load d path source =>
    rw [carryOut, act, loadFile]
    cases Layer.ofFile d path <;> rfl

theorem held_carryOut_self (s : Settings) (c : Change) :
    (c.carryOut s).2.held c.source = (c.act (s.held c.source)).2 := by
  cases c with
  | set key v source => exact held_fill_self s source _
  | load d path source =>
    rw [carryOut, act, loadFile]
    cases Layer.ofFile d path with
    | error e => rfl
    | ok given => exact held_fill_self s source given

/-- The layers of all other sources stay as they are. -/
theorem held_carryOut_ne (s : Settings) (c : Change) (other : source ≠ c.source) :
    (c.carryOut s).2.held source = s.held source := by
  cases c with
  | set key v changed => exact held_fill_ne s _ other
  | load d path changed =>
    rw [carryOut, loadFile]
    cases Layer.ofFile d path with
    | error e => rfl
    | ok given => exact held_fill_ne s given other

end Change

/-! ## §2 Runs -/

/-- Every key shows the same in both settings. -/
def Alike (s t : Settings) : Prop := ∀ key default, s.getD key default = t.getD key default

theorem alike_of_held (same : ∀ source, s.held source = t.held source) : Alike s t :=
  fun key default => getD_congr same key default

theorem after_cons (s : Settings) (c : Change) (rest : List Change) :
    s.after (c :: rest) = Settings.after (c.carryOut s).2 rest := rfl

/-- A layer becomes what the changes of its own source make of it, one after the other. -/
theorem held_after (s : Settings) (changes : List Change) (source : Source) :
    (s.after changes).held source =
      (changes.filter fun c => c.source = source).foldl (fun l c => (c.act l).2)
        (s.held source) := by
  induction changes generalizing s with
  | nil => rfl
  | cons c rest ih =>
    rw [after_cons, ih]
    by_cases own : c.source = source
    · subst own
      rw [List.filter_cons_of_pos (by simp), List.foldl_cons, Change.held_carryOut_self]
    · rw [List.filter_cons_of_neg (by simpa using own),
        Change.held_carryOut_ne s c (Ne.symm own)]

/-- How the changes of different sources are mixed makes no difference. -/
theorem alike_after {before after : List Change}
    (same : ∀ source, (before.filter fun c => c.source = source) =
      after.filter fun c => c.source = source) :
    Alike (s.after before) (s.after after) := by
  refine alike_of_held fun source => ?_
  rw [held_after, held_after, same]

/-- A change comes to the same end before and after one of another source. -/
theorem Change.carryOut_fst_after {a b : Change} (apart : a.source ≠ b.source) :
    (b.carryOut (a.carryOut s).2).1 = (b.carryOut s).1 := by
  rw [carryOut_fst, carryOut_fst, held_carryOut_ne s a (Ne.symm apart)]

/-- Changes of different sources may trade places. -/
theorem Change.alike_swap {a b : Change} (apart : a.source ≠ b.source) :
    Alike (b.carryOut (a.carryOut s).2).2 (a.carryOut (b.carryOut s).2).2 := by
  have swapped : Alike (s.after [a, b]) (s.after [b, a]) := by
    refine alike_after fun source => ?_
    by_cases own : a.source = source
    · have other : b.source ≠ source := fun h => apart (own.trans h.symm)
      simp [own, other]
    · simp [own, List.filter_cons]
  exact swapped

/-! ## §3 Aliases -/

/-- No mapping of any layer stands at several positions. -/
def Untied (s : Settings) : Prop := ∀ source, (s.held source).ties = []

/-- No mapping in a file of settings stands at several positions. -/
def UntiedFile (d : Disk) (path : String) : Prop :=
  ∀ text, settingsText d path = .ok text → Document.ties text = []

/-- A change takes no mapping from a file that stands at several positions. -/
def Change.Untied : Change → Prop
  | set _ _ _ => True
  | load d path _ => UntiedFile d path

/-- A text without an alias is such a file. -/
theorem untiedFile_of_aliasFree {d : Disk} {path : String}
    (free : ∀ text ts, settingsText d path = .ok text → Document.tokens text.toList = .ok ts →
      ∀ a, Document.Token.alias a ∉ ts) : UntiedFile d path := by
  intro text read
  exact Document.ties_eq_nil fun ts cut => free text ts read cut

theorem ties_ofFile {d : Disk} {path : String} {l : Layer} (untied : UntiedFile d path)
    (given : Layer.ofFile d path = .ok l) : l.ties = [] := by
  rw [Layer.ofFile] at given
  obtain ⟨text, read, given⟩ := Fallible.bind_eq_ok.1 given
  have none : Document.ties text = [] := untied text read
  rw [Layer.ofText, none] at given
  cases value : Document.readByPieces text with
  | error fault =>
    rw [value] at given
    cases fault <;> exact absurd given (by simp)
  | ok v =>
    rw [value] at given
    obtain ⟨m, -, rfl⟩ := Fallible.map_eq_ok.1 (Fallible.mapError_eq_ok.1 given)
    show tiesUnderRoot v.entries [] = []
    rw [tiesUnderRoot]
    split <;> rfl

theorem Untied.fill {l : Layer} (h : Untied s) (none : l.ties = []) : Untied (s.fill source l) := by
  intro other
  by_cases same : other = source
  · subst same
    rw [held_fill_self, none]
  · rw [held_fill_ne s l same, h other]

theorem Untied.carryOut {c : Change} (h : Untied s) (plain : c.Untied) :
    Untied (c.carryOut s).2 := by
  cases c with
  | set key v source =>
    refine h.fill ?_
    show ((s.held source).write key v).2.ties = []
    rw [Layer.write]
    split
    · exact h source
    · show (s.held source).ties.without _ = []
      rw [h source]
      rfl
  | load d path source =>
    rw [Change.carryOut, loadFile]
    cases given : Layer.ofFile d path with
    | error e => exact h
    | ok l => exact h.fill (ties_ofFile plain given)

theorem Untied.after {changes : List Change} (h : Untied s) (plain : ∀ c ∈ changes, c.Untied) :
    Untied (s.after changes) := by
  induction changes generalizing s with
  | nil => exact h
  | cons c rest ih =>
    rw [after_cons]
    exact ih (h.carryOut (plain c List.mem_cons_self))
      fun other ho => plain other (List.mem_cons_of_mem _ ho)

theorem untied_load {d : Disk} {file : Option String} {env : Environment}
    (plain : ∀ path, file = some path → UntiedFile d path) (begun : load d file env = .ok s) :
    Untied s := by
  have start : Untied defaults := by
    intro source
    cases source <;> rfl
  rw [load] at begun
  cases named : file.filter (· ≠ "") with
  | none =>
    rw [named] at begun
    exact Except.ok.inj begun ▸ start.fill rfl
  | some path =>
    rw [named] at begun
    obtain ⟨below, given, begun⟩ := Fallible.bind_eq_ok.1 begun
    obtain ⟨l, hl, rfl⟩ := Fallible.map_eq_ok.1 given
    have untied : l.ties = [] := ties_ofFile (plain path (Option.filter_eq_some_iff.1 named).1) hl
    exact Except.ok.inj begun ▸ (start.fill untied).fill rfl

/-! ## §4 Keys -/

/-- To set a key is to write its value into the layer of the source. -/
theorem set_eq_ok : s.set key v source = .ok t ↔
    ((s.held source).write key v).1 = .ok () ∧ t = s.fill source ((s.held source).write key v).2 := by
  rw [set, write]
  cases ((s.held source).write key v).1 <;> simp [Except.map, eq_comm]

theorem set_of_written (done : ((s.held source).write key v).1 = .ok ()) :
    s.set key v source = .ok (s.write key v source).2 := set_eq_ok.2 ⟨done, rfl⟩

/-- A source to which a key was set shows the value, unless it is the absent one. -/
theorem from?_fill_write (done : ((s.held source).write key v).1 = .ok ()) :
    (s.fill source ((s.held source).write key v).2).from? key source = present v := by
  rw [from?, layer, held_fill_self, Layer.at?_write done]
  rfl

theorem from?_fill_ne {l : Layer} {other : Source} (ne : other ≠ source) (key : String) :
    (s.fill source l).from? key other = s.from? key other :=
  from?_congr (held_fill_ne s l ne) key

/-- What sources show is what they showed, if none of them is the one that was filled. -/
theorem findSome?_fill {l : Layer} {sources : List Source} (absent : source ∉ sources)
    (key : String) :
    sources.findSome? ((s.fill source l).from? key) = sources.findSome? (s.from? key) := by
  induction sources with
  | nil => rfl
  | cons other rest ih =>
    rw [List.mem_cons, not_or] at absent
    rw [List.findSome?_cons, List.findSome?_cons, from?_fill_ne (Ne.symm absent.1), ih absent.2]

/-- What a key shows once it has been set: what prevails over the source, else the value,
else what the source prevails over. -/
theorem get?_set (set : s.set key v source = .ok t) :
    t.get? key = (source.above.findSome? (s.from? key)).or
      ((present v).or (source.below.findSome? (s.from? key))) := by
  obtain ⟨done, rfl⟩ := set_eq_ok.1 set
  rw [get?_eq_around _ key source, from?_fill_write done, findSome?_fill source.not_mem_above,
    findSome?_fill source.not_mem_below]

/-- A key that leads to no position of the entry that was written shows what it did. -/
theorem get?_set_of_diverge {other : String} (done : s.set key v source = .ok t)
    (apart : ∀ name ∈ (s.held source).names key, Diverge name (partsPosition (keyPath other))) :
    t.get? other = s.get? other := by
  obtain ⟨-, rfl⟩ := set_eq_ok.1 done
  have same : (s.fill source ((s.held source).write key v).2).from? other = s.from? other := by
    funext asked
    by_cases own : asked = source
    · subst own
      rw [from?, from?, layer, layer, held_fill_self, Layer.at?_write_of_diverge apart]
    · exact from?_fill_ne own other
  rw [get?_eq, get?_eq, same]

/-- A key that diverges from one that is set shows what it did, where no mapping stands at
several positions. -/
theorem get?_set_of_untied {other : String} (untied : Untied s)
    (set : s.set key v source = .ok t) (apart : Diverge (keyPath key) (keyPath other)) :
    t.get? other = s.get? other := by
  refine get?_set_of_diverge set fun name h => ?_
  rw [Layer.names_of_untied (untied source), List.mem_singleton] at h
  rw [h]
  exact diverge_partsPosition.2 apart

/-- **To set a key touches what its entry shows, and one layer only.** Where a key has
been set it shows what the sources above show, else the value if it is not the absent one,
else what the sources below show. A key that leads to no position of the entry that was
written, and to nothing within or around one, shows what it did, and no other layer
changes. So changes of different sources may trade places: each comes to the same end, and
every key shows the same in the end. Settings that were made and then changed, by any
changes, show the same if the changes of each source come in the same order. An entry has
a single position, the one that its key says, as long as no mapping stands at several
positions of a file; in a file without an alias none does. -/
theorem set_touches_its_key :
    (∀ (s t : Settings) (key : String) (v : Value) (source : Source),
      s.set key v source = .ok t →
        (∀ default, t.getD key default = ((source.above.findSome? (s.from? key)).or
          ((present v).or (source.below.findSome? (s.from? key)))).getD default) ∧
        (∀ other, (∀ name ∈ (s.held source).names key,
            Diverge name (partsPosition (keyPath other))) →
          ∀ default, t.getD other default = s.getD other default) ∧
        (∀ other, other ≠ source → t.held other = s.held other)) ∧
    (∀ (s : Settings) (a b : Change), a.source ≠ b.source →
      (b.carryOut (a.carryOut s).2).1 = (b.carryOut s).1 ∧
      (a.carryOut (b.carryOut s).2).1 = (a.carryOut s).1 ∧
      Alike (b.carryOut (a.carryOut s).2).2 (a.carryOut (b.carryOut s).2).2) ∧
    (∀ (s : Settings) (changes mixed : List Change),
      (∀ source, (changes.filter fun c => c.source = source) =
        mixed.filter fun c => c.source = source) →
      Alike (s.after changes) (s.after mixed)) ∧
    (∀ (d : Disk) (file : Option String) (env : Environment) (start : Settings)
      (changes : List Change), load d file env = .ok start →
      (∀ path, file = some path → UntiedFile d path) → (∀ c ∈ changes, c.Untied) →
      ∀ (t : Settings) (key : String) (v : Value) (source : Source),
        (start.after changes).set key v source = .ok t →
        ∀ other, Diverge (keyPath key) (keyPath other) →
          ∀ default, t.getD other default = (start.after changes).getD other default) ∧
    (∀ (d : Disk) (path : String), (∀ text ts, settingsText d path = .ok text →
      Document.tokens text.toList = .ok ts → ∀ a, Document.Token.alias a ∉ ts) →
        UntiedFile d path) := by
  refine ⟨?_, ?_, ?_, ?_, ?_⟩
  · intro s t key v source set
    refine ⟨?_, ?_, ?_⟩
    · intro default
      rw [getD, get?_set set]
    · intro other apart default
      rw [getD, getD, get?_set_of_diverge set apart]
    · intro other ne
      obtain ⟨-, rfl⟩ := set_eq_ok.1 set
      exact held_fill_ne s _ ne
  · intro s a b apart
    exact ⟨Change.carryOut_fst_after apart, Change.carryOut_fst_after (Ne.symm apart),
      Change.alike_swap apart⟩
  · intro s changes mixed same
    exact alike_after same
  · intro d file env start changes begun plain plains t key v source set other apart default
    have untied : Untied (start.after changes) := (untied_load plain begun).after plains
    rw [getD, getD, get?_set_of_untied untied set apart]
  · intro d path free
    exact untiedFile_of_aliasFree free

/-- A file in which two keys stand for one mapping, and a file without an alias. -/
def aliasDisk : Disk :=
  (Disk.empty.write "twin.yaml" (some "fssearch:\n  a: &x \x7bb: 1\x7d\n  c: *x\n".toUTF8)).write
    "plain.yaml" (some "logging:\n  level: INFO\n".toUTF8)

/-- The settings that a file there leads to. -/
@[irreducible]
def startedWith (path : String) : Settings :=
  (load aliasDisk (some path) []).toOption.getD defaults

/-- Writes a level above a file. -/
def raisesLevel : Change := .set levelKey (.text "DEBUG") .environment

/-- Takes the layer of files from another file. -/
def changesFile : Change := .load aliasDisk "twin.yaml" .file

/-- The level of a file without an alias is set above it: the value is shown, the encoding
stays what it is, and it makes no difference whether another file is loaded before or
after. -/
theorem set_level_above_a_file :
    ∃ t, (startedWith "plain.yaml").set levelKey (.text "DEBUG") .environment = .ok t ∧
      t.getD levelKey .null = .text "DEBUG" ∧
      t.getD encodingKey .null = (startedWith "plain.yaml").getD encodingKey .null ∧
      Alike (changesFile.carryOut (raisesLevel.carryOut (startedWith "plain.yaml")).2).2
        (raisesLevel.carryOut (changesFile.carryOut (startedWith "plain.yaml")).2).2 ∧
      Alike (defaults.after [raisesLevel, changesFile, raisesLevel])
        (defaults.after [raisesLevel, raisesLevel, changesFile]) := by
  obtain ⟨keys, swaps, mixes, plain, free⟩ := set_touches_its_key
  have begun : load aliasDisk (some "plain.yaml") [] = .ok (startedWith "plain.yaml") := by
    rw [startedWith]
    exact Fallible.eq_ok_of_isOk (by decide +kernel) _
  have text : settingsText aliasDisk "plain.yaml" = .ok "logging:\n  level: INFO\n" := by
    decide +kernel
  have cut : Document.tokens "logging:\n  level: INFO\n".toList = .ok [.blockMappingStart, .key,
      .scalar "logging" true, .value, .blockMappingStart, .key, .scalar "level" true, .value,
      .scalar "INFO" true, .blockEnd, .blockEnd] := by decide +kernel
  have untied : UntiedFile aliasDisk "plain.yaml" := by
    refine free _ _ fun text' ts read cut' a => ?_
    obtain rfl := Except.ok.inj (text.symm.trans read)
    obtain rfl := Except.ok.inj (cut.symm.trans cut')
    simp
  have done : (((startedWith "plain.yaml").held .environment).write levelKey (.text "DEBUG")).1 =
      .ok () := by decide +kernel
  have set := set_of_written done
  have nothingAbove : (Source.environment.above.findSome?
      ((startedWith "plain.yaml").from? levelKey)).isNone = true := by decide +kernel
  refine ⟨_, set, ?_, ?_, ?_, ?_⟩
  · rw [(keys _ _ _ _ _ set).1, Option.isNone_iff_eq_none.1 nothingAbove]
    rfl
  · refine plain _ _ _ _ [] begun ?_ (by simp) _ _ _ _ set _ (by decide +kernel) _
    rintro path h
    obtain rfl := Option.some.inj h
    exact untied
  · exact (swaps _ raisesLevel changesFile (by decide)).2.2
  · refine mixes _ _ _ fun source => ?_
    cases source <;> rfl

/-- Through an alias a value is written under a key that diverges from the one that is set. -/
theorem set_through_an_alias :
    load aliasDisk (some "twin.yaml") [] = .ok (startedWith "twin.yaml") ∧
    Diverge (keyPath "fssearch.a.b") (keyPath "fssearch.c.b") ∧
    ((startedWith "twin.yaml").getD "fssearch.c.b" .null).shown = "1" ∧
    ∃ t, (startedWith "twin.yaml").set "fssearch.a.b" (.scalar (.int 2)) .file = .ok t ∧
      (t.getD "fssearch.c.b" .null).shown = "2" ∧
      t.getD "fssearch.c.b" .null ≠ (startedWith "twin.yaml").getD "fssearch.c.b" .null := by
  have begun : load aliasDisk (some "twin.yaml") [] = .ok (startedWith "twin.yaml") := by
    rw [startedWith]
    exact Fallible.eq_ok_of_isOk (by decide +kernel) _
  have before : ((startedWith "twin.yaml").getD "fssearch.c.b" .null).shown = "1" := by
    decide +kernel
  have after : (((startedWith "twin.yaml").write "fssearch.a.b" (.scalar (.int 2)) .file).2.getD
      "fssearch.c.b" .null).shown = "2" := by decide +kernel
  refine ⟨begun, by decide +kernel, before, _, set_of_written (by decide +kernel), after, ?_⟩
  intro same
  have := after.symm.trans ((congrArg Value.shown same).trans before)
  exact absurd this (by decide)

end TreeSift.Settings
