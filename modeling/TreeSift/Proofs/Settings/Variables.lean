/-
  TreeSift.Proofs.Settings.Variables — variables reach the keys that they name.

  A variable writes a key of a section if its name is the common start and then, in lower
  case, the section, an underscore and the key (`Writes`). Where a section has no underscore
  of its own this settles both (`variablePlace?_eq_some_iff`), whatever underscores the key
  has. Of the variables that write one key the last one counts, in whatever spellings they
  are and whatever other variables stand between them (`at?_sections_of_last`), and without
  such a variable the layers below are asked (`variables_reach_their_key`). Variables that
  write no key might as well not be there (`environmentSections_filter`).

    §1 Names     `Writes`, `Places`, `variablePlace?_eq_some_iff`
    §2 Sections  `at?_setInSection`, `at?_enter`, `at?_sections_of_last`
    §3 Layers    `keyPath_variableKey`, `at?_environmentLayer`
    §4 Answers   `variables_reach_their_key`
-/
import Mathlib.Data.List.TakeWhile
import TreeSift.Proofs.Settings.Frame
import TreeSift.Proofs.Text.Pieces

namespace TreeSift

/-! ## §1 Names -/

/-- What follows the start in the name of a variable is, in lower case, a section, an
underscore and a key. -/
def Writes (name sectionName key : String) : Prop :=
  ∃ rest, name = variableStart ++ rest ∧ Text.lower rest = sectionName ++ "_" ++ key

/-- The name of a variable has the start, a section and a key. -/
def Places (name : String) : Prop :=
  ∃ sectionName key, sectionName ≠ "" ∧ key ≠ "" ∧ '_' ∉ sectionName.toList ∧
    Writes name sectionName key

theorem afterStart?_eq_some_iff {start s rest : List Char} :
    afterStart? start s = some rest ↔ s = start ++ rest := by
  induction start generalizing s with
  | nil => simp [afterStart?]
  | cons c start ih =>
    cases s with
    | nil => simp [afterStart?]
    | cons d s =>
      by_cases same : c = d
      · simp [afterStart?, same, ih]
      · simp [afterStart?, same, Ne.symm same]

/-- What stands before and after the first underscore of a text, if something stands in
both places. -/
theorem cut_at_underscore {s before after : List Char} (hb : before ≠ []) (ha : after ≠ []) :
    s.takeWhile (· ≠ '_') = before ∧ (s.dropWhile (· ≠ '_')).drop 1 = after ↔
      '_' ∉ before ∧ s = before ++ '_' :: after := by
  constructor
  · rintro ⟨rfl, rfl⟩
    refine ⟨fun mem => by simpa using List.mem_takeWhile_imp mem, ?_⟩
    obtain ⟨c, more, found⟩ : ∃ c more, s.dropWhile (· ≠ '_') = c :: more :=
      List.exists_cons_of_ne_nil (by rintro h; exact ha (by rw [h]; rfl))
    -- The text is cut at a character that is not passed over.
    have underscore : c = '_' := by
      have := List.head?_dropWhile_not (· ≠ '_') s
      rw [found] at this
      simpa using this
    subst underscore
    rw [found, List.drop_one, List.tail_cons, ← found, List.takeWhile_append_dropWhile]
  · rintro ⟨absent, rfl⟩
    have passed : ∀ c ∈ before, (decide (c ≠ '_')) = true := by
      intro c hc
      simpa using fun h : c = '_' => absent (h ▸ hc)
    rw [List.takeWhile_append_of_pos passed, List.dropWhile_append_of_pos passed]
    simp

/-- What follows the start of a name in lower case, cut at its first underscore. -/
theorem writes_iff {name sectionName key : String} :
    Writes name sectionName key ↔ ∃ rest, name.toList = variableStart.toList ++ rest ∧
      (Text.lower (String.ofList rest)).toList = sectionName.toList ++ '_' :: key.toList := by
  constructor
  · rintro ⟨rest, rfl, lowered⟩
    refine ⟨rest.toList, String.toList_append, ?_⟩
    rw [String.ofList_toList, lowered]
    simp
  · rintro ⟨rest, spelled, lowered⟩
    refine ⟨String.ofList rest, String.toList_inj.1 ?_, String.toList_inj.1 ?_⟩
    · rw [spelled, String.toList_append, String.toList_ofList]
    · rw [lowered]
      simp

/-- A variable has a place if and only if its name is read so, and then it has that place
alone. -/
theorem variablePlace?_eq_some_iff {name sectionName key : String} :
    variablePlace? name = some (sectionName, key) ↔
      sectionName ≠ "" ∧ key ≠ "" ∧ '_' ∉ sectionName.toList ∧ Writes name sectionName key := by
  rw [variablePlace?, writes_iff]
  constructor
  · intro h
    obtain ⟨rest, spelled, cut⟩ := Option.bind_eq_some_iff.1 h
    dsimp only at cut
    split at cut
    · exact absurd cut (by simp)
    · rename_i some
      obtain ⟨rfl, rfl⟩ := Prod.mk.inj (Option.some.inj cut)
      rw [Bool.or_eq_true, List.isEmpty_iff, List.isEmpty_iff, not_or] at some
      obtain ⟨absent, whole⟩ := (cut_at_underscore some.1 some.2).1 ⟨rfl, rfl⟩
      refine ⟨?_, ?_, ?_, rest, afterStart?_eq_some_iff.1 spelled, ?_⟩
      · simpa using some.1
      · simpa using some.2
      · simpa using absent
      · simpa using whole
  · rintro ⟨hs, hk, absent, rest, spelled, lowered⟩
    obtain ⟨before, after⟩ := (cut_at_underscore (by simpa using hs) (by simpa using hk)).2
      ⟨absent, lowered⟩
    refine Option.bind_eq_some_iff.2 ⟨rest, afterStart?_eq_some_iff.2 spelled, ?_⟩
    dsimp only
    rw [before, after, if_neg (by simp [hs, hk])]
    simp

/-- For a section without an underscore and a key, neither empty, that is what it takes to
write there. -/
theorem writes_iff_place {name sectionName key : String} (hs : sectionName ≠ "") (hk : key ≠ "")
    (plain : '_' ∉ sectionName.toList) :
    Writes name sectionName key ↔ variablePlace? name = some (sectionName, key) := by
  simp [variablePlace?_eq_some_iff, hs, hk, plain]

theorem places_iff {name : String} : Places name ↔ variablePlace? name ≠ none := by
  rw [Option.ne_none_iff_exists']
  constructor
  · rintro ⟨sectionName, key, placed⟩
    exact ⟨(sectionName, key), variablePlace?_eq_some_iff.2 placed⟩
  · rintro ⟨⟨sectionName, key⟩, placed⟩
    exact ⟨sectionName, key, variablePlace?_eq_some_iff.1 placed⟩

instance (name : String) : Decidable (Places name) := decidable_of_iff _ places_iff.symm

/-! ## §2 Sections -/

theorem Value.at?_single (m : Mapping) (part : String) :
    (Value.mapping m).at? [part] = Mapping.get? (.text part) m := by
  rw [Value.at?_cons]
  cases Mapping.get? (.text part) m <;> rfl

/-- Texts are the same key if they are the same text. -/
theorem sameKey_texts {s t : String} : (Scalar.text s).sameKey (.text t) = true ↔ s = t := by
  rw [Scalar.sameKey_text, Scalar.text.injEq]

/-- What a key of a text shows after a value has been written under a text. -/
theorem Mapping.get?_set_text (s t : String) (v : Value) (m : Mapping) :
    get? (.text t) (set (.text s) v m) = if s = t then some v else get? (.text t) m := by
  split
  · rename_i same
    rw [same, get?_set_self]
  · rename_i other
    exact get?_set_of_not_same v m (mt sameKey_texts.1 other)

/-- Where a value is written into a section, nothing but its own key changes. What the
section was, if it was no mapping, had no keys. -/
theorem at?_setInSection (written own sectionName key : String) (v : Value) (m : Mapping) :
    (Value.mapping (setInSection written own v m)).at? [sectionName, key] =
      if written = sectionName ∧ own = key then some v
      else (Value.mapping m).at? [sectionName, key] := by
  rw [setInSection, Value.at?_cons, Value.at?_cons, Mapping.get?_set_text]
  by_cases same : written = sectionName
  · subst same
    rw [if_pos rfl, Option.bind_some, Value.at?_single, Mapping.get?_set_text]
    by_cases keys : own = key
    · rw [if_pos keys, if_pos ⟨rfl, keys⟩]
    · rw [if_neg keys, if_neg fun h => keys h.2]
      cases Mapping.get? (.text written) m with
      | none => rfl
      | some inner =>
        cases inner with
        | mapping entries => exact (Value.at?_single entries key).symm
        | _ => rfl
  · rw [if_neg same, if_neg fun h => same h.1]

/-- What one more variable makes of the sections. -/
def enter (m : Mapping) (v : String × String) : Mapping :=
  match variablePlace? v.1 with
  | none => m
  | some (sectionName, key) => setInSection sectionName key (settingValue v.2) m

theorem environmentSections_eq (env : Environment) :
    environmentSections env = env.foldl enter [] := rfl

/-- A variable without a place changes nothing. -/
theorem enter_of_not_places {v : String × String} (m : Mapping) (no : ¬ Places v.1) :
    enter m v = m := by
  rw [places_iff, not_not] at no
  rw [enter, no]

/-- A variable sets the key that it has its place at and no other. -/
theorem at?_enter (m : Mapping) (v : String × String) (sectionName key : String) :
    (Value.mapping (enter m v)).at? [sectionName, key] =
      if variablePlace? v.1 = some (sectionName, key) then some (settingValue v.2)
      else (Value.mapping m).at? [sectionName, key] := by
  rw [enter]
  cases place : variablePlace? v.1 with
  | none => rfl
  | some own => simp only [at?_setInSection, Option.some.injEq, ← Prod.mk.injEq]

section

variable {sectionName key : String}

/-- Variables with other places leave what a key shows. -/
theorem at?_foldl_enter {env : Environment} (m : Mapping)
    (others : ∀ v ∈ env, variablePlace? v.1 ≠ some (sectionName, key)) :
    (Value.mapping (env.foldl enter m)).at? [sectionName, key] =
      (Value.mapping m).at? [sectionName, key] := by
  induction env generalizing m with
  | nil => rfl
  | cons v rest ih =>
    rw [List.foldl_cons, ih _ fun w hw => others w (List.mem_cons_of_mem _ hw), at?_enter,
      if_neg (others v List.mem_cons_self)]

/-- Of the variables with one place the last one counts. -/
theorem at?_sections_of_last {before after : Environment} {name text : String}
    (placed : variablePlace? name = some (sectionName, key))
    (last : ∀ v ∈ after, variablePlace? v.1 ≠ some (sectionName, key)) :
    (Value.mapping (environmentSections (before ++ (name, text) :: after))).at?
      [sectionName, key] = some (settingValue text) := by
  rw [environmentSections_eq, List.foldl_append, List.foldl_cons, at?_foldl_enter _ last,
    at?_enter, if_pos placed]

/-- Without a variable of its own a key shows nothing. -/
theorem at?_sections_of_none {env : Environment}
    (none : ∀ v ∈ env, variablePlace? v.1 ≠ some (sectionName, key)) :
    (Value.mapping (environmentSections env)).at? [sectionName, key] = Option.none := by
  rw [environmentSections_eq, at?_foldl_enter [] none]
  rfl

end

/-- Variables without a place might as well not be there. -/
theorem environmentSections_filter (env : Environment) :
    environmentSections (env.filter fun v => Places v.1) = environmentSections env := by
  have step : (fun m (v : String × String) => if decide (Places v.1) = true then enter m v else m) =
      enter := by
    funext m v
    by_cases places : Places v.1
    · simp [places]
    · simp [places, enter_of_not_places m places]
  rw [environmentSections_eq, environmentSections_eq, List.foldl_filter, step]

/-! ## §3 Layers -/

/-- The key of all settings, a section and a key in it as one dotted key. -/
def variableKey (sectionName key : String) : String :=
  Settings.rootKey ++ "." ++ sectionName ++ "." ++ key

/-- A dotted key leads through the section to the key if neither has a dot. -/
theorem keyPath_variableKey {sectionName key : String} (hs : '.' ∉ sectionName.toList)
    (hk : '.' ∉ key.toList) :
    keyPath (variableKey sectionName key) = [Settings.rootKey, sectionName, key] := by
  have spelled : (variableKey sectionName key).toList =
      Settings.rootKey.toList ++ '.' :: (sectionName.toList ++ '.' :: key.toList) := by
    simp [variableKey]
  have root : '.' ∉ Settings.rootKey.toList := by decide
  rw [keyPath, keyParts, spelled, Text.pieces_append, Text.pieces_append,
    Text.pieces_of_not_mem root, Text.pieces_of_not_mem hs, Text.pieces_of_not_mem hk]
  simp

/-- The layer of variables holds their sections under the key of all settings. -/
theorem at?_environmentLayer (env : Environment) (part : String) (rest : List String) :
    (Value.mapping (environmentLayer env)).at? (Settings.rootKey :: part :: rest) =
      (Value.mapping (environmentSections env)).at? (part :: rest) := by
  rw [environmentLayer]
  split
  · rename_i empty
    rw [List.isEmpty_iff.1 empty]
    rfl
  · rw [Value.at?_cons, Mapping.get?, if_pos (Scalar.sameKey_refl _)]
    rfl

/-- The text of a variable never stands for the absent value. -/
theorem present_settingValue (text : String) :
    Settings.present (settingValue text) = some (settingValue text) := by
  have there : (settingValue text).isNull = false := by
    rw [settingValue]
    split
    · rfl
    · split
      · rfl
      · split <;> rfl
  rw [Settings.present, there]
  rfl

namespace Settings

/-- Settings that were loaded: the layer of the variables over what was there before. -/
theorem load_cases {d : Disk} {file : Option String} {env : Environment} {start : Settings}
    (begun : load d file env = .ok start) :
    ∃ below, (below = defaults ∨ ∃ path, defaults.loadFile d path .file = .ok below) ∧
      start = below.setLayer .environment (environmentLayer env) := by
  rw [load] at begun
  cases named : file.filter (· ≠ "") with
  | none =>
    rw [named] at begun
    exact ⟨defaults, .inl rfl, (Except.ok.inj begun).symm⟩
  | some path =>
    rw [named] at begun
    obtain ⟨below, given, begun⟩ := Fallible.bind_eq_ok.1 begun
    exact ⟨below, .inr ⟨path, given⟩, (Except.ok.inj begun).symm⟩

theorem held_load {d : Disk} {file : Option String} {env : Environment} {start : Settings}
    (begun : load d file env = .ok start) :
    start.held .environment = ⟨environmentLayer env, []⟩ := by
  obtain ⟨below, -, rfl⟩ := load_cases begun
  exact held_fill_self below .environment _

theorem held_defaults_ne {source : Source} (other : source ≠ .defaults) :
    defaults.held source = .empty := by
  cases source <;> first | rfl | exact absurd rfl other

/-- Loading gives nothing that prevails over the variables. -/
theorem from?_load_above {d : Disk} {file : Option String} {env : Environment} {start : Settings}
    (begun : load d file env = .ok start) {source : Source}
    (above : source ∈ Source.environment.above) (key : String) :
    start.from? key source = none := by
  obtain ⟨below, old, rfl⟩ := load_cases begun
  have highest : source ≠ .environment ∧ source ≠ .file ∧ source ≠ .defaults := by
    cases source <;> revert above <;> decide
  have empty : (below.setLayer .environment (environmentLayer env)).held source = .empty := by
    rw [setLayer, held_fill_ne _ _ highest.1]
    rcases old with rfl | ⟨path, given⟩
    · exact held_defaults_ne highest.2.2
    · obtain ⟨l, -, rfl⟩ := Fallible.map_eq_ok.1 given
      rw [held_fill_ne _ _ highest.2.1, held_defaults_ne highest.2.2]
  rw [from?, layer, empty]
  rfl

/-- Changes of other layers leave the layer of the variables. -/
theorem held_after_load {d : Disk} {file : Option String} {env : Environment} {start : Settings}
    {changes : List Change} (begun : load d file env = .ok start)
    (others : ∀ c ∈ changes, c.source ≠ .environment) :
    (start.after changes).held .environment = ⟨environmentLayer env, []⟩ := by
  have none : (changes.filter fun c => c.source = .environment) = [] := by
    simpa [List.filter_eq_nil_iff] using others
  rw [held_after, none, List.foldl_nil, held_load begun]

/-- What variables show under a key of a section. -/
theorem from?_environment {t : Settings} {env : Environment} {sectionName key : String}
    (held : t.held .environment = ⟨environmentLayer env, []⟩) (hs : '.' ∉ sectionName.toList)
    (hk : '.' ∉ key.toList) :
    t.from? (variableKey sectionName key) .environment =
      ((Value.mapping (environmentSections env)).at? [sectionName, key]).bind present := by
  rw [from?, layer, held, keyPath_variableKey hs hk, at?_environmentLayer]

/-! ## §4 Answers -/

/-- **Variables reach the keys that they name.** Let settings be loaded, with or without a
file, and then be changed in other layers than that of the variables. A key of a section
for which nothing was given at run time or on the command line shows what the last of its
variables says, the one after which no other writes this key. If no variable writes it, it
shows what the file gives, else the default, else what is asked for in that case. Loading
alone gives nothing at run time or on the command line. And variables without the start,
without a section or without a key make no difference to what is loaded. -/
theorem variables_reach_their_key :
    (∀ (d : Disk) (file : Option String) (env : Environment) (start : Settings)
      (changes : List Change) (sectionName key : String), load d file env = .ok start →
      (∀ c ∈ changes, c.source ≠ .environment) → sectionName ≠ "" → key ≠ "" →
      '.' ∉ sectionName.toList → '.' ∉ key.toList → '_' ∉ sectionName.toList →
      (∀ source ∈ [Source.runtime, .arguments],
        (start.after changes).from? (variableKey sectionName key) source = none) →
      (∀ before name text after, env = before ++ (name, text) :: after →
        Writes name sectionName key → (∀ v ∈ after, ¬ Writes v.1 sectionName key) →
        ∀ default, (start.after changes).getD (variableKey sectionName key) default =
          settingValue text) ∧
      ((∀ v ∈ env, ¬ Writes v.1 sectionName key) →
        ∀ default, (start.after changes).getD (variableKey sectionName key) default =
          ([Source.file, .defaults].findSome?
            ((start.after changes).from? (variableKey sectionName key))).getD default)) ∧
    (∀ (d : Disk) (file : Option String) (env : Environment) (start : Settings),
      load d file env = .ok start → ∀ key, ∀ source ∈ [Source.runtime, .arguments],
        start.from? key source = none) ∧
    (∀ (d : Disk) (file : Option String) (env : Environment),
      load d file (env.filter fun v => Places v.1) = load d file env) := by
  refine ⟨?_, ?_, ?_⟩
  · intro d file env start changes sectionName key begun others hs hk sdots kdots plain above
    have placed : ∀ name, Writes name sectionName key ↔
        variablePlace? name = some (sectionName, key) := fun _ => writes_iff_place hs hk plain
    have shown := from?_environment (held_after_load begun others) sdots kdots
    have nothing : Source.environment.above.findSome?
        ((start.after changes).from? (variableKey sectionName key)) = none :=
      List.findSome?_eq_none_iff.2 above
    refine ⟨?_, ?_⟩
    · rintro before name text after rfl own last default
      rw [at?_sections_of_last ((placed name).1 own) fun v hv => mt (placed v.1).2 (last v hv),
        Option.bind_some, present_settingValue] at shown
      rw [getD, get?_eq_around _ _ .environment, nothing, shown]
      rfl
    · intro none default
      rw [at?_sections_of_none fun v hv => mt (placed v.1).2 (none v hv)] at shown
      rw [getD, get?_eq_around _ _ .environment, nothing, shown]
      rfl
  · intro d file env start begun key source above
    exact from?_load_above begun above key
  · intro d file env
    rw [load, load, environmentLayer, environmentLayer, environmentSections_filter]

/-- A file of settings that gives the encoding. -/
def encodingDisk : Disk :=
  Disk.empty.write "s.yaml" (some "rules:\n  encoding: latin-1\n".toUTF8)

/-- Variables of which two write one key in different spellings, and three write none. -/
def crowdedVariables : Environment :=
  [("FSSEARCH_RULES_HALT_ON_BLANK_LINE", "yes"), ("HOME", "/"),
    ("FSSEARCH_Rules_Halt_On_Blank_Line", "12"), ("FSSEARCH_RULES_", "off"), ("FSSEARCH__X", "1")]

/-- The settings that the file and the variables lead to. -/
@[irreducible]
def crowdedStart : Settings :=
  (load encodingDisk (some "s.yaml") crowdedVariables).toOption.getD defaults

/-- The same settings after a level has been set at run time. -/
def crowdedLater : Settings := crowdedStart.after [.set levelKey (.text "DEBUG") .runtime]

/-- The second of two spellings counts, a key without a variable is what the file says, and
a level that is set at run time makes no difference to either. -/
theorem crowded_variables_over_a_file :
    load encodingDisk (some "s.yaml") crowdedVariables = .ok crowdedStart ∧
    (crowdedLater.getD haltKey .null).shown = "12" ∧
    (crowdedLater.getD encodingKey .null).toText? = some "latin-1" ∧
    load encodingDisk (some "s.yaml") [crowdedVariables[0], crowdedVariables[2]] =
      .ok crowdedStart := by
  obtain ⟨reached, -, unplaced⟩ := variables_reach_their_key
  have begun : load encodingDisk (some "s.yaml") crowdedVariables = .ok crowdedStart := by
    rw [crowdedStart]
    exact Fallible.eq_ok_of_isOk (by decide +kernel) _
  have others : ∀ c ∈ [Change.set levelKey (.text "DEBUG") .runtime], c.source ≠ .environment := by
    simp [Change.source]
  have keys : haltKey = variableKey "rules" "halt_on_blank_line" ∧
      encodingKey = variableKey "rules" "encoding" := by decide +kernel
  have free : ∀ key ∈ [haltKey, encodingKey], ∀ source ∈ [Source.runtime, .arguments],
      (crowdedLater.from? key source).isNone = true := by decide +kernel
  refine ⟨begun, ?_, ?_, ?_⟩
  · have place : ∀ name, Writes name "rules" "halt_on_blank_line" ↔
        variablePlace? name = some ("rules", "halt_on_blank_line") :=
      fun _ => writes_iff_place (by decide) (by decide) (by decide)
    have own : Writes "FSSEARCH_Rules_Halt_On_Blank_Line" "rules" "halt_on_blank_line" :=
      (place _).2 (by decide +kernel)
    have last : ∀ v ∈ crowdedVariables.drop 3, ¬ Writes v.1 "rules" "halt_on_blank_line" := by
      simp only [place]
      decide +kernel
    have shown := (reached _ _ _ _ _ "rules" "halt_on_blank_line" begun others (by decide)
      (by decide) (by decide) (by decide) (by decide) (fun source h => by
        rw [← keys.1]
        exact Option.isNone_iff_eq_none.1 (free haltKey (by simp) source h))).1
      (crowdedVariables.take 2) _ "12" (crowdedVariables.drop 3) rfl own last .null
    rw [keys.1, crowdedLater, shown]
    decide +kernel
  · have none : ∀ v ∈ crowdedVariables, ¬ Writes v.1 "rules" "encoding" := by
      have place : ∀ name, Writes name "rules" "encoding" ↔
          variablePlace? name = some ("rules", "encoding") :=
        fun _ => writes_iff_place (by decide) (by decide) (by decide)
      simp only [place]
      decide +kernel
    have shown := (reached _ _ _ _ _ "rules" "encoding" begun others (by decide)
      (by decide) (by decide) (by decide) (by decide) (fun source h => by
        rw [← keys.2]
        exact Option.isNone_iff_eq_none.1 (free encodingKey (by simp) source h))).2 none .null
    rw [keys.2, crowdedLater, shown]
    decide +kernel
  · rw [← begun, ← unplaced _ _ crowdedVariables]
    exact congrArg (load encodingDisk (some "s.yaml")) (by decide +kernel)

end Settings

end TreeSift
