/-
  TreeSift.Proofs.Search.Success — searches that cannot fail on the way.

  If everything below a directory can be walked, then so can everything below each
  of its subdirectories (`survey_of_at?`). A wildcard search lists no other
  directories, so it succeeds, whatever its segments are (`search_succeeds`).

    §1 Surveys   `Forest.survey_of_deep`, `Tree.survey_of_at?`
    §2 Searches  `collect_succeeds`, `explore_succeeds`, `search_succeeds`
-/
import TreeSift.Proofs.Search.Candidates
import TreeSift.Proofs.Search.Explore

namespace TreeSift

/-! ## §1 Surveys -/

/-- What is below the directories of a forest includes the survey of each. -/
theorem Forest.survey_of_deep {f : Forest} {ps : List Tree.Place} (h : f.deep = .ok ps)
    {name : String} {c : Tree} (found : f.find? name = some c) (dir : c.kind.isDirectory = true) :
    ∃ qs, c.survey = .ok qs := by
  induction f generalizing ps with
  | nil => exact absurd found (by simp [find?])
  | place n kind below next _ ih =>
    rw [deep_place] at h
    rw [find?] at found
    split at h
    · obtain ⟨later, hl, h⟩ := Fallible.bind_eq_ok.1 h
      obtain ⟨inner, hi, -⟩ := Fallible.bind_eq_ok.1 h
      split at found
      · obtain rfl := Option.some.inj found
        obtain ⟨qs, hs, -⟩ := Tree.seenFrom_eq_ok hi
        exact ⟨qs, hs⟩
      · exact ih hl found
    · rename_i hk
      split at found
      · obtain rfl := Option.some.inj found
        exact absurd dir hk
      · exact ih h found

namespace Tree

theorem opened_of_survey {t : Tree} {ps : List Place} (h : t.survey = .ok ps) :
    ∃ qs, t.opened = .ok qs := by
  obtain ⟨qs, ho, -⟩ := Fallible.bind_eq_ok.1 h
  exact ⟨qs, ho⟩

/-- Of a directory that can be surveyed, every directory below can be. -/
theorem survey_of_at? {t : Tree} {ps : List Place} (h : t.survey = .ok ps) {names : List String}
    {c : Tree} (hat : t.at? names = some c) (dir : c.kind.isDirectory = true) :
    ∃ qs, c.survey = .ok qs := by
  induction names generalizing t ps with
  | nil =>
    obtain rfl := Option.some.inj hat
    exact ⟨ps, h⟩
  | cons name rest ih =>
    rw [at?_cons, Option.bind_eq_some_iff] at hat
    obtain ⟨d, hd, hat⟩ := hat
    obtain ⟨hk, more, deep, -⟩ := survey_eq_ok h
    have found : t.below.find? name = some d := by
      rw [child?, hk] at hd
      exact hd
    have inner : d.kind.isDirectory = true := by
      cases rest with
      | nil => rwa [Option.some.inj hat]
      | cons next rest =>
        refine eq_true_of_ne_false fun no => ?_
        rw [at?_cons, child?, no] at hat
        exact absurd hat (by simp)
    obtain ⟨qs, hs⟩ := Forest.survey_of_deep deep found inner
    exact ih hs hat

theorem children_succeeds {t here : Tree} {dir : String} (h : t.resolve? dir = some here)
    {ps : List Place} (walked : here.survey = .ok ps) (glob : Glob) (target : Target) :
    ∃ found, t.children dir glob target = .ok found := by
  obtain ⟨qs, ho⟩ := opened_of_survey walked
  exact ⟨_, by rw [children_eq h, ho]; rfl⟩

theorem descendants_succeeds {t here : Tree} {dir : String} (h : t.resolve? dir = some here)
    {ps : List Place} (walked : here.survey = .ok ps) (glob : Glob) (target : Target) :
    ∃ found, t.descendants dir glob target = .ok found :=
  ⟨_, by rw [descendants_eq h, walked]; rfl⟩

/-- Where the candidates at every depth are known, there has been a survey. -/
theorem survey_of_descendants {t : Tree} {dir : String} {glob : Glob} {target : Target}
    {found : List String} (h : t.descendants dir glob target = .ok found) :
    ∃ here ps, t.resolve? dir = some here ∧ here.survey = .ok ps := by
  cases hr : t.resolve? dir with
  | none => exact absurd h (by simp [descendants, locate, hr])
  | some here =>
    rw [descendants_eq hr] at h
    obtain ⟨ps, hs, -⟩ := map_located_eq_ok h
    exact ⟨here, ps, rfl, hs⟩

end Tree

/-! ## §2 Searches -/

namespace Wildcard

/-- What is found below each of some directories can be put together. -/
theorem collect_succeeds {find : String → Except ListingError PathSet} {dirs : List String}
    (each : ∀ d ∈ dirs, ∃ u, find d = .ok u) : ∃ s, collect dirs find = .ok s := by
  suffices onward : ∀ sofar : PathSet, ∃ s, dirs.foldlM
      (fun found dir => do return found.insertAll (← find dir).toList) sofar = .ok s from
    onward .empty
  induction dirs with
  | nil => exact fun sofar => ⟨sofar, rfl⟩
  | cons d rest ih =>
    intro sofar
    obtain ⟨u, hu⟩ := each d List.mem_cons_self
    rw [List.foldlM_cons, hu]
    exact ih (fun d' inside => each d' (List.mem_cons_of_mem _ inside)) _

/-- Directories that are found can be surveyed, and are named by their paths. -/
theorem surveyed_of_mem {t here : Tree} {dir : String} (h : t.resolve? dir = some here)
    (wf : here.WellFormed) {ps : List Tree.Place} (walked : here.survey = .ok ps)
    {q : Tree.Place} (hat : here.at? q.names = some q.tree)
    (wanted : Target.directory.wants q.tree = true) :
    t.resolve? (Tree.pathTo dir q.names) = some q.tree ∧ q.tree.WellFormed ∧
      ∃ qs, q.tree.survey = .ok qs :=
  ⟨Tree.resolve?_pathTo h (wf.of_at? hat).1 hat, (wf.of_at? hat).2,
    Tree.survey_of_at? walked hat wanted⟩

/-- **Below a directory that can be walked, segments can be resolved.** -/
theorem explore_succeeds {t here : Tree} (target : Target) (segments : List String) {dir : String}
    (h : t.resolve? dir = some here) (wf : here.WellFormed)
    {ps : List Tree.Place} (walked : here.survey = .ok ps) :
    ∃ s, explore t target segments dir = .ok s := by
  fun_induction explore t target segments dir generalizing here ps with
  | case1 dir => exact ⟨_, rfl⟩
  | case2 segment dir =>
    suffices found : ∃ found, resolveLast t segment target dir = .ok found by
      obtain ⟨found, hf⟩ := found
      exact ⟨_, by rw [hf]; rfl⟩
    unfold resolveLast
    cases target with
    | file => exact Tree.children_succeeds h walked _ _
    | directory =>
      dsimp only
      split
      · exact Tree.descendants_succeeds h walked _ _
      · exact Tree.children_succeeds h walked _ _
  | case3 segment next dir =>
    obtain ⟨found, hf⟩ := Tree.descendants_succeeds h walked (Glob.ofText next) target
    exact ⟨_, by rw [hf]; rfl⟩
  | case4 segment next rest dir marker more ih =>
    obtain ⟨found, hf⟩ := Tree.descendants_succeeds h walked (Glob.ofText next) .directory
    rw [hf]
    refine collect_succeeds fun d inside => ?_
    obtain ⟨qs, rfl, hqs⟩ := Tree.descendants_eq_ok h wf hf
    obtain ⟨q, hq, rfl⟩ := List.mem_map.1 inside
    obtain ⟨hat, wanted, -⟩ := (hqs q).1 hq
    obtain ⟨hr, wfq, qs', hs⟩ := surveyed_of_mem h wf walked hat wanted
    exact ih _ hr wfq hs
  | case5 segment next rest dir ordinary ih =>
    obtain ⟨found, hf⟩ := Tree.children_succeeds h walked (Glob.ofText segment) .directory
    rw [hf]
    refine collect_succeeds fun d inside => ?_
    obtain ⟨qs, rfl, hqs⟩ := Tree.children_eq_ok h wf hf
    obtain ⟨q, hq, rfl⟩ := List.mem_map.1 inside
    obtain ⟨hat, wanted, -⟩ := (hqs q).1 hq
    obtain ⟨hr, wfq, qs', hs⟩ := surveyed_of_mem h wf walked hat wanted
    exact ih _ hr wfq hs

end Wildcard

/-- **Where everything below the root can be enumerated, a wildcard search succeeds.** -/
theorem search_succeeds {t : Tree} (wf : t.WellFormed) {root : String}
    (valid : checkRoot t (.path root) = .ok root) {glob : Glob} {target : Target}
    {all : List String} (listed : t.descendants root glob target = .ok all) (pattern : String) :
    ∃ f, search t .wildcard (.of root pattern target) = .ok f := by
  obtain ⟨here, ps, hr, walked⟩ := Tree.survey_of_descendants listed
  obtain ⟨s, hs⟩ := Wildcard.explore_succeeds target (Pattern.segments pattern) hr
    (wf.of_resolve? hr) walked
  refine ⟨⟨⟨root, pattern, target⟩, s⟩, ?_⟩
  rw [search_of, valid, Fallible.ok_bind, Inquiry.paths, Wildcard.resolve_eq_explore,
    List.drop_zero, hs]
  rfl

end TreeSift
