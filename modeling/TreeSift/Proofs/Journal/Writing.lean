/-
  TreeSift.Proofs.Journal.Writing — writing only adds to what is written.

  A record changes neither the channels nor the frames nor the shared logger
  (`Extends`). Once the shared logger is that of the program, it stays, and what
  is written with it adds records only (`IsReady.debugShared`). Whatever loggers are
  asked for, the pushed contexts stay as well (`Step.frames_carryOut`), and a name
  that has a level has one afterwards (`Step.hasLevel_carryOut`).

    §1 More records       `Extends`, `extends_write`
    §2 The shared logger  `IsReady`, `IsReady.debugShared`
    §3 Frames             `push_pop_of_extends`
    §4 Requests           `Step`, `Step.frames_carryOut`
    §5 Levels             `HasLevel`, `Step.hasLevel_carryOut`
-/
import TreeSift.Journal.Basic

namespace TreeSift.Journal

/-! ## §1 More records -/

/-- A journal in which more has been written. -/
def Extends (j k : Journal) : Prop := ∃ more, k = { j with written := j.written ++ more }

theorem Extends.refl (j : Journal) : j.Extends j := ⟨[], by simp⟩

theorem Extends.trans {j k l : Journal} (h : j.Extends k) (h' : k.Extends l) : j.Extends l := by
  obtain ⟨first, rfl⟩ := h
  obtain ⟨second, rfl⟩ := h'
  exact ⟨first ++ second, by simp⟩

theorem extends_write (j : Journal) (name : String) (level : Level) (message : String)
    (context : Context) (traced : Bool) : j.Extends (j.write name level message context traced) := by
  rcases j.write_cases name level message context traced with same | ⟨c, -, grown⟩
  · rw [same]
    exact .refl j
  · exact ⟨_, grown⟩

/-! ## §2 The shared logger -/

/-- Whether the shared logger is that of the program. -/
def IsReady (j : Journal) : Prop := ∃ logger, j.shared = some logger ∧ logger.name = programName

theorem isReady_obtain (j : Journal) : (j.obtain programName).2.IsReady := by
  unfold obtain
  cases hs : j.shared with
  | none => exact ⟨_, rfl, rfl⟩
  | some logger =>
    dsimp only
    split
    · exact ⟨logger, hs, ‹_›⟩
    · exact ⟨_, rfl, rfl⟩

theorem IsReady.obtain {j : Journal} (h : j.IsReady) : (j.obtain programName).2 = j := by
  obtain ⟨logger, hs, hn⟩ := h
  rw [Journal.obtain, hs]
  dsimp only
  rw [if_pos hn]

theorem IsReady.of_extends {j k : Journal} (ready : j.IsReady) (h : j.Extends k) : k.IsReady := by
  obtain ⟨more, rfl⟩ := h
  exact ready

theorem IsReady.push {j : Journal} (h : j.IsReady) (c : Context) : (j.push c).IsReady := h

theorem IsReady.pop {j : Journal} (h : j.IsReady) : j.pop.IsReady := h

theorem IsReady.debugShared {j : Journal} (h : j.IsReady) (message : String) (context : Context) :
    j.Extends (j.debugShared message context) := by
  rw [Journal.debugShared, h.obtain]
  exact extends_write ..

/-! ## §3 Frames -/

/-- A frame that is dropped and pushed again is where it was. -/
theorem push_pop_of_extends {j k : Journal} {c : Context} (h : (j.push c).Extends k) :
    k.pop.push c = k := by
  obtain ⟨more, rfl⟩ := h
  simp [push, pop]

/-! ## §4 Requests -/

/-- What loggers are asked for, besides blocks. -/
inductive Step where
  | create (name : String) (level : Level) (sinks : List Sink)
  | setLevel (name : String) (level : Level)
  | addSink (name : String) (sink : Sink)
  | share (logger : Option Logger)
  | obtain (name : String)
  | write (name : String) (level : Level) (message : String) (context : Context) (traced : Bool)

/-- What is asked for is done. -/
def Step.carryOut (j : Journal) : Step → Journal
  | create name level sinks => (j.create name level sinks).2
  | setLevel name level => j.setLevel name level
  | addSink name sink => j.addSink name sink
  | share logger => j.share logger
  | obtain name => (j.obtain name).2
  | write name level message context traced => j.write name level message context traced

theorem Step.frames_carryOut (j : Journal) (step : Step) : (step.carryOut j).frames = j.frames := by
  cases step with
  | create name level sinks => rfl
  | setLevel name level =>
    rw [carryOut, Journal.setLevel]
    cases j.channel? name <;> rfl
  | addSink name sink =>
    rw [carryOut, Journal.addSink]
    cases j.channel? name <;> rfl
  | share logger => rfl
  | obtain name => exact j.frames_obtain name
  | write name level message context traced => exact j.frames_write ..

theorem frames_debugShared (j : Journal) (message : String) (context : Context) :
    (j.debugShared message context).frames = j.frames :=
  (frames_write ..).trans (frames_obtain ..)

/-! ## §5 Levels -/

/-- A name has a level, and sinks. -/
def HasLevel (j : Journal) (name : String) : Prop := ∃ c, j.channel? name = some c

section Levels

variable {j k : Journal} {name : String}

theorem HasLevel.of_channels_eq (h : j.HasLevel name) (same : k.channels = j.channels) :
    k.HasLevel name := by
  obtain ⟨c, hc⟩ := h
  exact ⟨c, by rw [channel?, same]; exact hc⟩

theorem channel?_setChannel_self (j : Journal) (name : String) (c : Channel) :
    (j.setChannel name c).channel? name = some c := Keyed.get?_set_self ..

/-- To give a name a level takes it from no other one. -/
theorem HasLevel.setChannel (h : j.HasLevel name) (other : String) (c : Channel) :
    (j.setChannel other c).HasLevel name := by
  obtain ⟨d, hd⟩ := h
  by_cases same : channelName other = channelName name
  · exact ⟨c, by rw [channel?, Journal.setChannel, ← same, Keyed.get?_set_self]⟩
  · exact ⟨d, (Keyed.get?_set_ne c j.channels same).trans hd⟩

theorem hasLevel_create (j : Journal) (name : String) (level : Level) (sinks : List Sink) :
    (j.create name level sinks).2.HasLevel name :=
  ⟨⟨level, sinks⟩, j.channel?_setChannel_self name ⟨level, sinks⟩⟩

theorem HasLevel.create (h : j.HasLevel name) (other : String) (level : Level)
    (sinks : List Sink) : (j.create other level sinks).2.HasLevel name :=
  (h.setChannel other ⟨level, sinks⟩).of_channels_eq rfl

/-- Names keep their levels, or get new ones. -/
theorem Step.hasLevel_carryOut (h : j.HasLevel name) (step : Step) :
    (step.carryOut j).HasLevel name := by
  cases step with
  | create other level sinks => exact h.create other level sinks
  | setLevel other level =>
    rw [carryOut, Journal.setLevel]
    cases j.channel? other with
    | none => exact h
    | some c => exact h.setChannel ..
  | addSink other sink =>
    rw [carryOut, Journal.addSink]
    cases j.channel? other with
    | none => exact h
    | some c => exact h.setChannel ..
  | share logger => exact h.of_channels_eq rfl
  | obtain other =>
    rcases j.obtain_cases other with same | ⟨logger, made⟩
    · rw [carryOut, same]
      exact h
    · rw [carryOut, made]
      exact (h.create other .warning [.console]).of_channels_eq rfl
  | write other level message context traced =>
    obtain ⟨more, grown⟩ := j.extends_write other level message context traced
    rw [carryOut, grown]
    exact h.of_channels_eq rfl

end Levels

end TreeSift.Journal
