/-
  TreeSift.Proofs.Settings.Refused — changes that are refused.

  A value is written part after part, and the layer of the source and the mappings on
  the way are made as they are needed. Yet what is made is empty, and in something empty
  nothing is in the way; so where the writing stops, nothing had been made before. A file
  is read as a whole before the layer is replaced. All in all a change that is refused
  leaves the settings that were there (`held_refused`).

    §1 Layers    `held_refused`
    §2 Obstacles `set_refused_iff`
    §3 Changes   `refused_without_trace`
-/
import TreeSift.Proofs.Settings.Frame

namespace TreeSift.Settings

variable {s : Settings} {c : Change} {e : Refusal}

/-! ## §1 Layers -/

/-- A change that is refused makes nothing of the layer of its source. -/
theorem Change.act_of_refused {l : Layer} (refused : (c.act l).1 = .error e) :
    (c.act l).2 = l := by
  cases c with
  | set key v source =>
    obtain ⟨placing, stopped, -⟩ := Fallible.mapError_eq_error.1 refused
    exact Layer.write_of_refused stopped
  | load d path source =>
    rw [Change.act] at refused ⊢
    cases given : Layer.ofFile d path with
    | error failure => rfl
    | ok new =>
      rw [given] at refused
      exact absurd refused (by simp)

/-- A change that is refused leaves all layers as they are. -/
theorem held_refused (refused : (c.carryOut s).1 = .error e) (source : Source) :
    (c.carryOut s).2.held source = s.held source := by
  by_cases own : source = c.source
  · subst own
    rw [Change.carryOut_fst] at refused
    rw [Change.held_carryOut_self, Change.act_of_refused refused]
  · exact Change.held_carryOut_ne s c own

/-! ## §2 Obstacles -/

/-- To set a key is refused if and only if some of its parts, not all, lead in the source to
something that is not a mapping. -/
theorem set_refused_iff {key : String} {v : Value} {source : Source} :
    (∃ e, ((Change.set key v source).carryOut s).1 = .error e) ↔
      ∃ before after w, before ≠ [] ∧ after ≠ [] ∧ before ++ after = keyPath key ∧
        (Value.mapping (s.layer source)).at? before = some w ∧ ¬ w.IsMapping := by
  have walked : (∃ e, ((Change.set key v source).carryOut s).1 = .error e) ↔
      ∃ e, (Mapping.walk v (keyParts key).1 (keyParts key).2 (s.layer source)).1 = .error e := by
    rw [Change.carryOut_fst, Change.act, Layer.write_fst]
    constructor
    · rintro ⟨e, refused⟩
      obtain ⟨placing, stopped, -⟩ := Fallible.mapError_eq_error.1 refused
      exact ⟨placing, stopped⟩
    · rintro ⟨placing, stopped⟩
      exact ⟨.placing placing, Fallible.mapError_eq_error.2 ⟨placing, stopped, rfl⟩⟩
  rw [walked]
  exact Mapping.walk_refused_iff

/-! ## §3 Changes -/

/-- **A change that is refused leaves no trace.** Whichever key is set and whichever file
is loaded, if that is refused, no layer has changed, and every key shows what it did. A
value can be written under a key unless some of its parts, not all, lead in the layer of
the source to something that is not a mapping, the absent value among others. -/
theorem refused_without_trace :
    (∀ (s : Settings) (c : Change) (e : Refusal), (c.carryOut s).1 = .error e →
      (∀ source, (c.carryOut s).2.held source = s.held source) ∧
        ∀ key default, (c.carryOut s).2.getD key default = s.getD key default) ∧
    (∀ (s : Settings) (key : String) (v : Value) (source : Source),
      (∃ e, ((Change.set key v source).carryOut s).1 = .error e) ↔
        ∃ before after w, before ≠ [] ∧ after ≠ [] ∧ before ++ after = keyPath key ∧
          (Value.mapping (s.layer source)).at? before = some w ∧ ¬ w.IsMapping) := by
  refine ⟨?_, fun s key v source => set_refused_iff⟩
  intro s c e refused
  have held : ∀ source, (c.carryOut s).2.held source = s.held source :=
    fun source => held_refused refused source
  exact ⟨held, alike_of_held held⟩

/-- Writes something below the level, which is a text. -/
def writesBelowLevel : Change := .set "fssearch.logging.level.low.er" (.flag true) .defaults

/-- There is nothing below the level, and after an attempt to write there the level is
what it was. -/
theorem nothing_below_level :
    ∃ e, (writesBelowLevel.carryOut defaults).1 = .error e ∧
      (writesBelowLevel.carryOut defaults).2.getD levelKey .null = .text "WARNING" := by
  obtain ⟨trace, obstacle⟩ := refused_without_trace
  have text : ¬ (Value.text "WARNING").IsMapping := by
    rintro ⟨m, h⟩
    cases h
  obtain ⟨e, refused⟩ := (obstacle defaults "fssearch.logging.level.low.er" (.flag true)
    .defaults).2 ⟨["fssearch", "logging", "level"], ["low", "er"], .text "WARNING", by simp,
      by simp, by decide, rfl, text⟩
  exact ⟨e, refused, ((trace _ _ e refused).2 levelKey .null).trans rfl⟩

end TreeSift.Settings
