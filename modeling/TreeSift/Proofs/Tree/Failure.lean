/-
  TreeSift.Proofs.Tree.Failure — when a walk fails.

  A directory stops a walk if it cannot be listed or has an entry whose kind
  cannot be found out. A walk comes to every directory that can be reached, so it
  fails exactly if one of them stops it, or if its own path cannot be listed at
  all. Which names and kinds are wanted is asked of the entries of a walk that is
  complete, hence it makes no difference to the failure
  (`descendants_fail_iff_stopped`).

    §1 Directories  `Stops`, `stops_iff_opened`
    §2 Surveys      `survey_fails_iff`
    §3 Candidates   `descendants_eq_traversal`, `descendants_fail_iff_stopped`
-/
import TreeSift.Proofs.Search.Success

namespace TreeSift.Tree

/-! ## §1 Directories -/

/-- Whether a directory stops every walk that comes to it: it cannot be listed, or
it has an entry of unknown kind. -/
def Stops (c : Tree) : Prop := c.kind = .denied ∨ ∃ name e, c.child? name = some e ∧ e.kind = .loop

/-- Only directories have entries, and only directories can refuse to be listed. -/
theorem Stops.isDirectory {c : Tree} (h : c.Stops) : c.kind.isDirectory = true := by
  cases h with
  | inl denied => rw [denied]; rfl
  | inr holds =>
    obtain ⟨name, e, he, -⟩ := holds
    cases dir : c.kind.isDirectory with
    | true => rfl
    | false => simp [child?, dir] at he

theorem at?_singleton (t : Tree) (name : String) : t.at? [name] = t.child? name := by
  rw [at?_cons]
  cases t.child? name <;> rfl

/-- An entry is one of the places at the top of its directory. -/
theorem mem_tops_of_child? {c e : Tree} (wf : c.WellFormed) (hk : c.kind = .directory)
    {name : String} : c.child? name = some e ↔ ⟨[], name, e⟩ ∈ c.below.tops := by
  have hc : c = ⟨.directory, c.below⟩ := by rw [← hk]
  rw [Forest.mem_tops wf, ← hc, ← at?_singleton]
  simp [Place.names]

/-- A directory stops a walk exactly if it cannot be opened. -/
theorem stops_iff_opened {c : Tree} (wf : c.WellFormed) (dir : c.kind.isDirectory = true) :
    c.Stops ↔ ∃ o, c.opened = .error o := by
  cases hk : c.kind with
  | denied => simp [Stops, opened, hk]
  | directory =>
    have loops : c.Stops ↔ ∃ p ∈ c.below.tops, p.tree.kind = .loop := by
      constructor
      · intro h
        cases h with
        | inl denied => simp [hk] at denied
        | inr holds =>
          obtain ⟨name, e, he, loop⟩ := holds
          exact ⟨_, (mem_tops_of_child? wf hk).1 he, loop⟩
      · intro ⟨⟨above, name, e⟩, hp, loop⟩
        have top : above = [] := ((Forest.mem_tops wf _).1 hp).1
        subst top
        exact .inr ⟨name, e, (mem_tops_of_child? wf hk).2 hp, loop⟩
    rw [loops]
    simp only [opened, hk]
    cases hf : c.below.tops.find? fun p => p.tree.kind = .loop with
    | none => simpa using hf
    | some p =>
      have loop := List.find?_some hf
      simpa using ⟨p, List.mem_of_find?_eq_some hf, by simpa using loop⟩
  | file => simp [hk, Kind.isDirectory] at dir
  | other => simp [hk, Kind.isDirectory] at dir
  | loop => simp [hk, Kind.isDirectory] at dir

/-! ## §2 Surveys -/

/-- An obstacle stands in a directory that stops the walk. -/
theorem Obstacle.Stands.exists_stops {here : Tree} (dir : here.kind.isDirectory = true)
    {o : Obstacle} (h : o.Stands here) : ∃ names c, here.at? names = some c ∧ c.Stops := by
  obtain ⟨c, hat, ⟨denied, -⟩ | ⟨loop, -⟩⟩ := h
  · exact ⟨o.names, c, hat, .inl denied⟩
  · have some : o.names ≠ [] := by
      intro none
      rw [none, at?_nil] at hat
      obtain rfl := Option.some.inj hat
      simp [loop, Kind.isDirectory] at dir
    rw [← List.dropLast_concat_getLast some, at?_append, Option.bind_eq_some_iff] at hat
    obtain ⟨d, hd, hc⟩ := hat
    rw [at?_singleton] at hc
    exact ⟨_, d, hd, .inr ⟨_, c, hc, loop⟩⟩

/-- The survey of a directory fails exactly if some directory that can be reached
stops it. -/
theorem survey_fails_iff {here : Tree} (wf : here.WellFormed)
    (dir : here.kind.isDirectory = true) :
    (∃ o, here.survey = .error o) ↔ ∃ names c, here.at? names = some c ∧ c.Stops := by
  constructor
  · intro ⟨o, failed⟩
    exact (survey_eq_error wf dir failed).exists_stops dir
  · intro ⟨names, c, hat, stops⟩
    cases hs : here.survey with
    | error o => exact ⟨o, rfl⟩
    | ok ps =>
      -- A survey that succeeds has opened every directory on its way.
      obtain ⟨qs, inner⟩ := survey_of_at? hs hat stops.isDirectory
      obtain ⟨tops, opened⟩ := opened_of_survey inner
      obtain ⟨o, closed⟩ := (stops_iff_opened (wf.of_at? hat).2 stops.isDirectory).1 stops
      rw [opened] at closed
      simp at closed

/-! ## §3 Candidates -/

/-- Candidates are what is left of a complete walk. -/
theorem descendants_eq_traversal (t : Tree) (path : String) (glob : Glob) (target : Target) :
    t.descendants path glob target = candidates glob target <$> t.traversal path := by
  simp only [descendants, traversal, walk_eq_located, tour, map_eq_pure_bind, bind_assoc]

theorem descendants_eq_error_iff {t : Tree} {path : String} {glob : Glob} {target : Target}
    {e : ListingError} :
    t.descendants path glob target = .error e ↔ t.traversal path = .error e := by
  rw [descendants_eq_traversal]
  cases t.traversal path <;> simp

/-- A path that names a place can be listed exactly if this is a directory that can be. -/
theorem scan_fails_iff {t here : Tree} {path : String} (h : t.resolve? path = some here) :
    (∃ e, t.scan path = .error e) ↔ here.kind ≠ .directory := by
  rw [scan_of_resolve? h, list]
  cases here.kind <;> simp

/-- A walk fails if its path cannot be listed or if some directory stops it. -/
theorem traversal_fails_iff {t : Tree} (wf : t.WellFormed) (path : String) :
    (∃ e, t.traversal path = .error e) ↔
      (∃ e, t.scan path = .error e) ∨
        ∃ here names c, t.resolve? path = some here ∧ here.at? names = some c ∧ c.Stops := by
  cases hr : t.resolve? path with
  | none => simp [traversal, scan, locate, hr]
  | some here =>
    have tours : (∃ e, t.traversal path = .error e) ↔ ∃ o, here.survey = .error o := by
      rw [traversal_of_resolve? hr, tour]
      cases here.survey <;> simp [located]
    rw [tours, scan_fails_iff hr]
    simp only [Option.some.injEq, exists_and_left, exists_eq_left']
    cases hd : here.kind.isDirectory with
    | true =>
      rw [survey_fails_iff (wf.of_resolve? hr) hd]
      constructor
      · intro stopped
        exact .inr stopped
      · intro failed
        cases failed with
        | inl unlisted =>
          have denied : here.kind = .denied := by cases hk : here.kind <;> simp_all [Kind.isDirectory]
          exact ⟨[], here, rfl, .inl denied⟩
        | inr stopped => exact stopped
    | false =>
      have closed : ∃ o, here.survey = .error o := by
        cases hk : here.kind <;> simp_all [Kind.isDirectory, survey, opened]
      have unlisted : here.kind ≠ .directory := by
        intro hk
        simp [hk, Kind.isDirectory] at hd
      simp [closed, unlisted]

/-- **When a walk fails.** A walk from a path fails exactly if the path cannot be
listed, or if some directory that is reached from it through directories (its own one
included) cannot be listed or has an entry of unknown kind. All walks from one path
fail alike, whatever names and kinds are looked for: with the same error, hence of the
same sort and in the same words. If they do not fail, what is found is complete. -/
theorem descendants_fail_iff_stopped {t : Tree} (wf : t.WellFormed) (path : String) :
    (∀ glob target, (∃ e, t.descendants path glob target = .error e) ↔
      (∃ e, t.scan path = .error e) ∨
        ∃ here names c, t.resolve? path = some here ∧ here.at? names = some c ∧ c.Stops) ∧
    (∀ glob glob' target target' e, t.descendants path glob target = .error e ↔
      t.descendants path glob' target' = .error e) ∧
    (∀ glob target found, t.descendants path glob target = .ok found →
      ∃ here, t.resolve? path = some here ∧ ∀ p, p ∈ found ↔
        ∃ q : Place, here.at? q.names = some q.tree ∧ target.wants q.tree = true ∧
          glob.covers q.name = true ∧ p = pathTo path q.names) := by
  refine ⟨?_, ?_, ?_⟩
  · intro glob target
    simp only [descendants_eq_error_iff]
    exact traversal_fails_iff wf path
  · intro glob glob' target target' e
    rw [descendants_eq_error_iff, descendants_eq_error_iff]
  · intro glob target found h
    obtain ⟨here, ps, hr, -⟩ := survey_of_descendants h
    obtain ⟨qs, rfl, members⟩ := descendants_eq_ok hr (wf.of_resolve? hr) h
    refine ⟨here, hr, ?_⟩
    intro p
    simp only [List.mem_map, members, and_assoc, @eq_comm _ p]

/-- A directory that cannot be listed and, beside it, one with an entry of unknown kind. -/
def stoppedTwice : Tree :=
  .ofPlaces [("/r/a.txt", .file), ("/r/d/x", .loop), ("/r/e/f", .denied)]

/-- Files whose names end in `.txt` are looked for in vain, although there is one, and so
are directories: the walk stops at a directory of another name. -/
theorem descendants_stopped_twice :
    stoppedTwice.WellFormed ∧
    (∃ e, stoppedTwice.descendants "/r" (Glob.ofText "*.txt") .file = .error e) ∧
    stoppedTwice.descendants "/r" (Glob.ofText "*.txt") .file = .error (.denied "/r/e/f") ∧
    stoppedTwice.descendants "/r" (Glob.ofText "d") .directory = .error (.denied "/r/e/f") := by
  have wf : stoppedTwice.WellFormed := by decide
  obtain ⟨fails, alike, -⟩ := descendants_fail_iff_stopped wf "/r"
  have first : stoppedTwice.descendants "/r" (Glob.ofText "*.txt") .file =
      .error (.denied "/r/e/f") := by
    rw [descendants_eq_traversal]
    rfl
  refine ⟨wf, (fails _ _).2 (.inr ?_), first, (alike _ _ _ _ _).1 first⟩
  exact ⟨_, ["d"], _, rfl, rfl, .inr ⟨"x", _, rfl, rfl⟩⟩

end TreeSift.Tree
