/-
  TreeSift.Proofs.Search.Spelling — the spelling of the root does not matter.

  What is searched below a directory is joined onto the path of the directory as it
  is spelled. All that a search does on the way — joining names, finding the place
  of a joined path again, cutting the root off, leaving out what an earlier path
  equals up to case — comes out the same behind every spelling. So there is one
  result in names only, a set of relative texts or an obstacle, of which the
  result below each spelling of the directory is the image (`Uniform`).

  That is shown step by step along the segments of a wildcard pattern
  (`explore_uniform`) and at once for regular expressions
  (`relativeMatches_uniform`); two spellings of one root are then two images of
  one result (`search_root_respelled`).

    §1 Images       `spelledTexts`, `spelled`, `Uniform`
    §2 Candidates   `Seen`, `candidates_spelled`
    §3 Wildcards    `collect_uniform`, `explore_uniform`
    §4 Expressions  `relativeMatches_uniform`
    §5 Searches     `search_root_respelled`
-/
import TreeSift.Proofs.PathSet.Behind
import TreeSift.Proofs.Search.Regex
import TreeSift.Proofs.Search.Wildcard

namespace TreeSift

open Tree (pathTo stem Obstacle located)

/-! ## §1 Images -/

/-- Relative texts that are found, below a directory that is spelled like this. -/
def spelledTexts (dir : String) : Except Obstacle (List String) → Except ListingError (List String)
  | .ok texts => .ok (texts.map (stem dir ++ ·))
  | .error o => .error (o.error dir)

/-- A set of relative texts, below a directory that is spelled like this. -/
def spelled (dir : String) : Except Obstacle PathSet → Except ListingError PathSet
  | .ok s => .ok (s.behind (stem dir))
  | .error o => .error (o.error dir)

theorem ofList_spelledTexts (dir : String) (out : Except Obstacle (List String)) :
    (do return PathSet.ofList (← spelledTexts dir out)) = spelled dir (PathSet.ofList <$> out) := by
  cases out with
  | ok texts => simp [spelledTexts, spelled, PathSet.behind_ofList, Fallible.pure_eq_ok]
  | error o => rfl

/-- What is found below each spelling of a directory is the image of one result. If
this is an obstacle, it stands there. -/
def Uniform (t here : Tree) (find : String → Except ListingError PathSet) : Prop :=
  ∃ out, (∀ o, out = .error o → o.Stands here) ∧
    ∀ dir, t.resolve? dir = some here → find dir = spelled dir out

/-- One function is uniform if another one is that agrees with it below the directory. -/
theorem Uniform.congr {t here : Tree} {find other : String → Except ListingError PathSet}
    (h : Uniform t here other) (same : ∀ dir, t.resolve? dir = some here → find dir = other dir) :
    Uniform t here find := by
  obtain ⟨out, stands, images⟩ := h
  exact ⟨out, stands, fun dir hd => (same dir hd).trans (images dir hd)⟩

/-! ## §2 Candidates -/

namespace Tree

/-- An obstacle that is met from the place that names lead to. -/
def Obstacle.below (names : List String) (o : Obstacle) : Obstacle :=
  { o with names := names ++ o.names }

theorem Obstacle.Stands.below {here c : Tree} {names : List String} {o : Obstacle}
    (hc : here.at? names = some c) (h : o.Stands c) : (o.below names).Stands here := by
  obtain ⟨d, hd, what⟩ := h
  refine ⟨d, ?_, what⟩
  rw [Obstacle.below, at?_append, hc]
  exact hd

/-- The names that lead to a place, joined by slashes. -/
def Place.text (q : Place) : String := "/".intercalate q.names

theorem Place.pathTo_eq {dir : String} {q : Place} (areNames : ∀ n ∈ q.names, IsName n) :
    pathTo dir q.names = stem dir ++ q.text := Tree.pathTo_eq q.names_ne_nil areNames

theorem Place.stem_pathTo {dir : String} {q : Place} (areNames : ∀ n ∈ q.names, IsName n) :
    stem (pathTo dir q.names) = stem dir ++ (q.text ++ "/") := by
  have last : pathTo dir q.names = join (pathTo dir q.above) q.name := by
    rw [Place.names, pathTo_append]
    rfl
  have noSlash : (pathTo dir q.names).toList.getLast? ≠ some '/' := by
    rw [last]
    exact getLast?_join (areNames q.name (by simp [Place.names]))
  rw [stem, if_neg noSlash, Place.pathTo_eq areNames, String.append_assoc]

end Tree

/-- What has been seen below a directory is there: the places, or the obstacle. -/
structure Seen (here : Tree) (r : Except Obstacle (List Tree.Place)) : Prop where
  places : ∀ qs, r = .ok qs → ∀ q ∈ qs, here.at? q.names = some q.tree
  obstacle : ∀ o, r = .error o → o.Stands here

section Candidates

variable {t here : Tree} {r : Except Obstacle (List Tree.Place)}

theorem seen_opened (wf : here.WellFormed) (dir : here.kind.isDirectory = true) :
    Seen here here.opened := by
  refine ⟨fun qs ho q hq => ?_, fun o ho => Tree.opened_eq_error wf dir ho⟩
  obtain ⟨hk, rfl⟩ := Tree.opened_eq_ok ho
  rw [show here = ⟨.directory, here.below⟩ by rw [← hk]]
  exact ((Forest.mem_tops wf q).1 hq).2

theorem seen_survey (wf : here.WellFormed) (dir : here.kind.isDirectory = true) :
    Seen here here.survey :=
  ⟨fun _ hs q hq => (Tree.mem_survey wf hs q).1 hq, fun _ hs => Tree.survey_eq_error wf dir hs⟩

/-- Candidates are the same texts behind every spelling. -/
theorem candidates_spelled (wf : here.WellFormed) (seen : Seen here r) (glob : Glob)
    (target : Target) (dir : String) :
    candidates glob target <$> located dir r =
      spelledTexts dir
        ((fun qs => (qs.filter (Tree.Place.suits glob target)).map Tree.Place.text) <$> r) := by
  cases r with
  | error o => rfl
  | ok qs =>
    rw [located, Fallible.map_ok, Fallible.map_ok, Tree.candidates_entries, spelledTexts,
      List.map_map]
    refine congrArg Except.ok (List.map_congr_left fun q hq => ?_)
    have hat := seen.places qs rfl q (List.mem_filter.1 hq).1
    exact Tree.Place.pathTo_eq (wf.of_at? hat).1

theorem uniform_ofList (wf : here.WellFormed) (seen : Seen here r) (glob : Glob)
    (target : Target) :
    Uniform t here fun dir => do return .ofList (← candidates glob target <$> located dir r) := by
  refine ⟨PathSet.ofList <$>
    (fun qs => (qs.filter (Tree.Place.suits glob target)).map Tree.Place.text) <$> r,
    fun o ho => ?_, fun dir _ => ?_⟩
  · cases r with
    | ok qs => exact absurd ho (by simp)
    | error p => exact Except.error.inj ho ▸ seen.obstacle p rfl
  · dsimp only
    rw [candidates_spelled wf seen, ofList_spelledTexts]

end Candidates

/-! ## §3 Wildcards -/

namespace Wildcard

/-- What is found from several places on, put together, is uniform if it is from each. -/
theorem collect_uniform {t here : Tree} (wf : here.WellFormed) {qs : List Tree.Place}
    {find : String → Except ListingError PathSet}
    (each : ∀ q ∈ qs, here.at? q.names = some q.tree ∧ Uniform t q.tree find) :
    Uniform t here fun dir => collect (qs.map fun q => pathTo dir q.names) find := by
  -- What has been collected so far is the image of a set as well.
  suffices onward : ∀ acc : PathSet, Uniform t here fun dir =>
      (qs.map fun q => pathTo dir q.names).foldlM
        (fun found d => do return found.insertAll (← find d).toList) (acc.behind (stem dir)) from
    onward .empty
  induction qs with
  | nil => exact fun acc => ⟨.ok acc, by simp, fun dir _ => rfl⟩
  | cons q rest ih =>
    intro acc
    obtain ⟨hat, out, stands, images⟩ := each q List.mem_cons_self
    have areNames : ∀ n ∈ q.names, IsName n := (wf.of_at? hat).1
    have image : ∀ dir, t.resolve? dir = some here →
        find (pathTo dir q.names) = spelled (pathTo dir q.names) out :=
      fun dir h => images _ (Tree.resolve?_pathTo h areNames hat)
    cases out with
    | error o =>
      refine ⟨.error (o.below q.names), fun p hp => ?_, fun dir h => ?_⟩
      · exact Except.error.inj hp ▸ (stands o rfl).below hat
      · dsimp only
        rw [List.map_cons, List.foldlM_cons, image dir h, spelled, spelled, Obstacle.error,
          Obstacle.error, Obstacle.below, Tree.pathTo_append]
        rfl
    | ok u =>
      obtain ⟨out, stands, images⟩ := ih (fun p hp => each p (List.mem_cons_of_mem _ hp))
        (acc.insertAll (u.behind (q.text ++ "/")).toList)
      refine ⟨out, stands, fun dir h => ?_⟩
      have added : (acc.behind (stem dir)).insertAll (u.behind (stem (pathTo dir q.names))).toList =
          (acc.insertAll (u.behind (q.text ++ "/")).toList).behind (stem dir) := by
        rw [PathSet.behind_insertAll, ← PathSet.toList_behind, PathSet.behind_behind,
          Tree.Place.stem_pathTo areNames]
      dsimp only
      rw [List.map_cons, List.foldlM_cons, image dir h, spelled, Fallible.ok_bind,
        Fallible.pure_eq_ok, Fallible.ok_bind, added]
      exact images dir h

/-- Going on from those candidates that are directories is uniform. -/
theorem uniform_onward {t here : Tree} {r : Except Obstacle (List Tree.Place)}
    (wf : here.WellFormed) (seen : Seen here r) (glob : Glob)
    {find : String → Except ListingError PathSet}
    (each : ∀ c : Tree, c.WellFormed → c.kind.isDirectory = true → Uniform t c find) :
    Uniform t here
      (fun dir => do collect (← candidates glob .directory <$> located dir r) find) := by
  cases r with
  | error o =>
    exact ⟨.error o, fun p hp => Except.error.inj hp ▸ seen.obstacle o rfl, fun dir _ => rfl⟩
  | ok qs =>
    have from_each : ∀ q ∈ qs.filter (Tree.Place.suits glob .directory),
        here.at? q.names = some q.tree ∧ Uniform t q.tree find := by
      intro q hq
      obtain ⟨hq, suits⟩ := List.mem_filter.1 hq
      have hat := seen.places qs rfl q hq
      exact ⟨hat, each q.tree (wf.of_at? hat).2 (Tree.Place.suits_iff.1 suits).1⟩
    obtain ⟨out, stands, images⟩ := collect_uniform wf from_each
    refine ⟨out, stands, fun dir h => ?_⟩
    rw [← images dir h]
    dsimp only
    rw [located, Fallible.map_ok, Fallible.ok_bind, Tree.candidates_entries]

theorem resolveLast_uniform {t here : Tree} (wf : here.WellFormed)
    (dir : here.kind.isDirectory = true) (segment : String) (target : Target) :
    Uniform t here fun d => do return .ofList (← resolveLast t segment target d) := by
  unfold resolveLast
  cases target with
  | file =>
    refine (uniform_ofList wf (seen_opened wf dir) (Glob.ofText segment) .file).congr fun d h => ?_
    simp only [Tree.children_eq h]
  | directory =>
    dsimp only
    split
    · refine (uniform_ofList wf (seen_survey wf dir) everyName .directory).congr fun d h => ?_
      simp only [Tree.descendants_eq h]
    · refine (uniform_ofList wf (seen_opened wf dir) (Glob.ofText segment)
        .directory).congr fun d h => ?_
      simp only [Tree.children_eq h]

/-- What the segments of a pattern lead to is uniform, from every directory on. -/
theorem explore_uniform (t : Tree) (target : Target) : ∀ (segments : List String) (here : Tree),
    here.WellFormed → here.kind.isDirectory = true → Uniform t here (explore t target segments)
  | [], here, _, _ => ⟨.ok .empty, by simp, fun dir _ => rfl⟩
  | [segment], here, wf, dir => by
    refine (resolveLast_uniform wf dir segment target).congr fun d _ => ?_
    rw [explore]
  | segment :: next :: rest, here, wf, dir => by
    by_cases marker : isMultiLevel segment = true
    · by_cases last : rest = []
      · refine (uniform_ofList wf (seen_survey wf dir) (Glob.ofText next) target).congr
          fun d h => ?_
        rw [explore, if_pos marker, if_pos last, Tree.descendants_eq h]
      · refine (uniform_onward wf (seen_survey wf dir) (Glob.ofText next)
          (explore_uniform t target rest)).congr fun d h => ?_
        rw [explore, if_pos marker, if_neg last, Tree.descendants_eq h]
    · refine (uniform_onward wf (seen_opened wf dir) (Glob.ofText segment)
        (explore_uniform t target (next :: rest))).congr fun d h => ?_
      rw [explore, if_neg marker, Tree.children_eq h]

end Wildcard

/-! ## §4 Expressions -/

theorem relativeMatches_uniform {t here : Tree} (wf : here.WellFormed)
    (dir : here.kind.isDirectory = true) (r : Regex) (target : Target) :
    Uniform t here fun d => relativeMatches t d r target := by
  let texts : List Tree.Place → List String := fun qs =>
    ((qs.filter (Tree.Place.suits Wildcard.everyName target)).map Tree.Place.text).filter
      fun text => r.isFoundIn (String.ofList (text.toList.dropWhile isSeparator))
  refine ⟨(fun qs => PathSet.ofList (texts qs)) <$> here.survey, fun o ho => ?_, fun d h => ?_⟩
  · cases hs : here.survey with
    | ok qs =>
      rw [hs] at ho
      exact absurd ho (by simp)
    | error p =>
      rw [hs] at ho
      exact Except.error.inj ho ▸ Tree.survey_eq_error wf dir hs
  · dsimp only
    rw [relativeMatches, Tree.descendants_eq h, candidates_spelled wf (seen_survey wf dir)]
    cases here.survey with
    | error o => rfl
    | ok qs =>
      have cut : (fun p => r.isFoundIn (relativePath p d)) ∘ (stem d ++ ·) =
          fun text => r.isFoundIn (String.ofList (text.toList.dropWhile isSeparator)) := by
        funext text
        rw [Function.comp_apply, relativePath_stem]
      simp only [Fallible.map_ok, spelledTexts, Fallible.ok_bind, Fallible.pure_eq_ok, spelled,
        PathSet.behind_ofList, List.filter_map, cut, texts]

/-! ## §5 Searches -/

theorem paths_uniform {t here : Tree} (wf : here.WellFormed) (dir : here.kind.isDirectory = true)
    (pattern : String) (target : Target) (method : Method) :
    (∃ sep e, method = .regex sep ∧ searchRegex pattern sep = .error e ∧
      ∀ root, Inquiry.paths t ⟨root, pattern, target⟩ method = .error e) ∨
    ∃ find, Uniform t here find ∧ ∀ root,
      Inquiry.paths t ⟨root, pattern, target⟩ method = (find root).mapError .listing := by
  cases method with
  | wildcard =>
    refine .inr ⟨_, Wildcard.explore_uniform t target (Pattern.segments pattern) here wf dir,
      fun root => ?_⟩
    rw [Inquiry.paths, Wildcard.resolve_eq_explore, List.drop_zero]
  | regex sep =>
    cases hr : searchRegex pattern sep with
    | error e =>
      refine .inl ⟨sep, e, rfl, hr, fun root => ?_⟩
      simp only [Inquiry.paths, hr, Fallible.error_bind]
    | ok r =>
      refine .inr ⟨_, relativeMatches_uniform wf dir r target, fun root => ?_⟩
      simp only [Inquiry.paths, hr, Fallible.ok_bind]

/-- What causes an obstacle's error is the same whatever the directory is called. -/
theorem Tree.Obstacle.Stands.name_error {here : Tree} {o : Obstacle} (h : o.Stands here)
    (dir other : String) : (o.error dir).name = (o.error other).name := by
  obtain ⟨c, -, ⟨-, cause⟩ | ⟨-, cause⟩⟩ := h
  · rw [Obstacle.error, Obstacle.error, cause]
    rfl
  · rw [Obstacle.error, Obstacle.error, cause]
    rfl

/-- **The spelling of the root does not matter.** Two paths that are accepted as roots
and name the same directory lead a search, by either method, to one of three ends:
both fail because the pattern is refused; both fail for the same reason at the same
entry; or both succeed, and the members of both are the same relative texts in the same
order, each behind its own root. Leaving out what an earlier path equals up to case
leaves out the same relative texts behind either root. -/
theorem search_root_respelled {t : Tree} (wf : t.WellFormed) {r₁ r₂ : String}
    (valid₁ : checkRoot t (.path r₁) = .ok r₁) (valid₂ : checkRoot t (.path r₂) = .ok r₂)
    (same : t.resolve? r₁ = t.resolve? r₂) (method : Method) (pattern : String)
    (target : Target) :
    ((∃ sep e, method = .regex sep ∧ searchRegex pattern sep = .error e ∧
        search t method (.of r₁ pattern target) = .error e ∧
        search t method (.of r₂ pattern target) = .error e) ∨
      (∃ here o, t.resolve? r₁ = some here ∧ Tree.Obstacle.Stands here o ∧
        (o.error r₁).name = (o.error r₂).name ∧
        search t method (.of r₁ pattern target) = .error (.listing (o.error r₁)) ∧
        search t method (.of r₂ pattern target) = .error (.listing (o.error r₂))) ∨
      ∃ (f₁ f₂ : Finding) (rels : List String),
        search t method (.of r₁ pattern target) = .ok f₁ ∧
        search t method (.of r₂ pattern target) = .ok f₂ ∧
        f₁.paths.toList = rels.map (stem r₁ ++ ·) ∧
        f₂.paths.toList = rels.map (stem r₂ ++ ·)) ∧
    ∀ rels : List String, ∀ root ∈ [r₁, r₂],
      (PathSet.ofList (rels.map (stem root ++ ·))).toList =
        (firstSpellings rels).map (stem root ++ ·) := by
  refine ⟨?_, fun rels root _ => ?_⟩
  · obtain ⟨-, here, h₁, dir⟩ := checkRoot_eq_ok valid₁
    have h₂ : t.resolve? r₂ = some here := same ▸ h₁
    rw [search_of, search_of, valid₁, valid₂, Fallible.ok_bind, Fallible.ok_bind]
    rcases paths_uniform (wf.of_resolve? h₁) dir pattern target method with
      ⟨sep, e, hm, refused, paths⟩ | ⟨find, ⟨out, stands, images⟩, paths⟩
    · exact .inl ⟨sep, e, hm, refused, by rw [paths, Fallible.error_bind],
        by rw [paths, Fallible.error_bind]⟩
    · rw [paths, paths, images r₁ h₁, images r₂ h₂]
      cases out with
      | error o => exact .inr (.inl ⟨here, o, h₁, stands o rfl, (stands o rfl).name_error _ _,
          rfl, rfl⟩)
      | ok s =>
        exact .inr (.inr ⟨_, _, s.toList, rfl, rfl, s.toList_behind _, s.toList_behind _⟩)
  · rw [PathSet.toList_ofList, firstSpellings_append]

/-- A tree with two spellings of a name in one directory and a third in another. -/
def respelledTree : Tree :=
  .ofPlaces [("/r/a/X", .file), ("/r/a/x", .file), ("/r/A/x", .file), ("/q", .directory)]

/-- Of three files one is found, below a root with a dot and below a way round. -/
theorem search_two_roots :
    respelledTree.WellFormed ∧ respelledTree.resolve? "/r/." = respelledTree.resolve? "q/../r//" ∧
    ∃ (f₁ f₂ : Finding) (rels : List String),
      search respelledTree .wildcard (.of "/r/." "a/**/x" .file) = .ok f₁ ∧
      search respelledTree .wildcard (.of "q/../r//" "a/**/x" .file) = .ok f₂ ∧
      f₁.paths.toList = ["/r/./a/X"] ∧
      f₁.paths.toList = rels.map (stem "/r/." ++ ·) ∧
      f₂.paths.toList = rels.map (stem "q/../r//" ++ ·) := by
  have wf : respelledTree.WellFormed := by decide
  have same : respelledTree.resolve? "/r/." = respelledTree.resolve? "q/../r//" := by rfl
  have listed : ((search respelledTree .wildcard (.of "/r/." "a/**/x" .file)).toOption.map
      fun f => f.paths.toList) = some ["/r/./a/X"] := by
    decide +kernel
  refine ⟨wf, same, ?_⟩
  obtain ⟨⟨sep, e, hm, -⟩ | ⟨here, o, -, -, -, failed, -⟩ | ⟨f₁, f₂, rels, h₁, h₂, m₁, m₂⟩, -⟩ :=
    search_root_respelled wf (by decide) (by decide) same .wildcard "a/**/x" .file
  · exact absurd hm (by simp)
  · rw [failed] at listed
    exact absurd listed (by simp [Except.toOption])
  · rw [h₁] at listed
    exact ⟨f₁, f₂, rels, h₁, h₂, Option.some.inj listed, m₁, m₂⟩

end TreeSift
