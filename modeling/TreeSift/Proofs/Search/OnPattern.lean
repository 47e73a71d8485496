/-
  TreeSift.Proofs.Search.OnPattern — segments without markers look only where they match.

  Segments of which none is a multi-level marker never start a walk. Each of them opens
  one directory and goes on in those whose names it describes, so the directories that
  are opened lie on the pattern: their names are described by the first segments, one
  by one (`OnPattern.of_opens`). Two trees in which these directories show the same are
  the same to the segments, however different they are elsewhere
  (`resolve_sees_on_pattern`).

    §1 Directories  `OnPattern`, `OnPattern.of_opens`
    §2 Two trees    `resolve_sees_on_pattern`
-/
import Mathlib.Data.List.Forall2
import TreeSift.Proofs.Search.Opening

namespace TreeSift.Wildcard

/-! ## §1 Directories -/

/-- Whether segments describe names one by one. -/
def Describe (segments names : List String) : Prop :=
  List.Forall₂ (fun segment name => (Glob.ofText segment).covers name = true) segments names

/-- The path of a directory, and the paths of the directories below it whose names are
described one by one by the first of some segments, the last one apart. -/
def OnPattern (t : Tree) (segments : List String) (dir path : String) : Prop :=
  path = dir ∨ ∃ here first more names c, t.resolve? dir = some here ∧
    segments = first ++ more ∧ more ≠ [] ∧ Describe first names ∧
    here.at? names = some c ∧ c.kind.isDirectory = true ∧ path = Tree.pathTo dir names

variable {t u : Tree} {target : Target}

/-- What is on the pattern from a directory is so from the one above, with one segment
more. -/
theorem OnPattern.of_child {here c : Tree} {dir name : String} (h : t.resolve? dir = some here)
    (isName : IsName name) (child : here.child? name = some c)
    (directory : c.kind.isDirectory = true) {segment : String} {rest : List String}
    (some : rest ≠ []) (covers : (Glob.ofText segment).covers name = true) {path : String}
    (onward : OnPattern t rest (Tree.join dir name) path) :
    OnPattern t (segment :: rest) dir path := by
  cases onward with
  | inl own =>
    refine .inr ⟨here, [segment], rest, [name], c, h, rfl, some, List.Forall₂.cons covers .nil, ?_,
      directory, own⟩
    rw [Tree.at?_singleton, child]
  | inr deeper =>
    obtain ⟨there, first, more, names, e, hr, rfl, ne, described, hat, dir', rfl⟩ := deeper
    rw [Tree.resolve?_join h isName, child] at hr
    obtain rfl := Option.some.inj hr
    refine .inr ⟨here, segment :: first, more, name :: names, e, h, rfl, ne,
      List.Forall₂.cons covers described, ?_, dir', rfl⟩
    rw [Tree.at?_cons, child]
    exact hat

/-- What is listed is there. -/
theorem resolve?_of_children {dir : String} {glob : Glob} {ps : List String}
    (listed : t.children dir glob target = .ok ps) : ∃ here, t.resolve? dir = some here := by
  rw [Tree.children_eq_enter, Fallible.map_eq_ok] at listed
  obtain ⟨found, hf, -⟩ := listed
  obtain ⟨es, hs, -⟩ := Fallible.bind_eq_ok.1 hf
  obtain ⟨here, hr, -⟩ := Tree.scan_eq_ok hs
  exact ⟨here, hr⟩

/-- Segments that begin with a walk have a marker among them. -/
theorem Walks.exists_marker {segments : List String} (deep : Walks target segments) :
    ∃ s ∈ segments, isMultiLevel s = true := by
  cases segments with
  | nil => exact deep.elim
  | cons s rest =>
    refine ⟨s, List.mem_cons_self, ?_⟩
    cases rest with
    | nil => exact deep.2
    | cons next rest => exact deep

/-- **Without markers, all paths that are opened are on the pattern.** -/
theorem OnPattern.of_opens (wf : t.WellFormed) {segments : List String}
    (ordinary : ∀ s ∈ segments, isMultiLevel s = false) {dir path : String}
    (opens : Opens t target segments dir path) : OnPattern t segments dir path := by
  induction opens with
  | own => exact .inl rfl
  | walked deep =>
    obtain ⟨s, inside, marker⟩ := deep.exists_marker
    simp [ordinary s inside] at marker
  | deeper deep => simp [ordinary _ List.mem_cons_self] at deep
  | child _ listed comes _ ih =>
    obtain ⟨here, hr⟩ := resolve?_of_children listed
    obtain ⟨qs, rfl, hqs⟩ := Tree.children_eq_ok hr (wf.of_resolve? hr) listed
    obtain ⟨⟨above, name, c⟩, hq, rfl⟩ := List.mem_map.1 comes.mem
    obtain ⟨hat, directory, top, covers⟩ := (hqs _).1 hq
    obtain rfl : above = [] := top
    have isName : IsName name := ((wf.of_resolve? hr).of_at? hat).1 name List.mem_cons_self
    have child : here.child? name = some c := (Tree.at?_singleton here name).symm.trans hat
    exact .of_child hr isName child directory (by simp) covers
      (ih fun s inside => ordinary s (List.mem_cons_of_mem _ inside))

/-! ## §2 Two trees -/

/-- **Patterns without markers look only where they match.** If two trees show the same
at the root and at every directory whose names are described one by one by the first
segments, the last segment apart, then the segments lead to the same paths in the same
order, or to the same failure. A failure is that of one of these directories. -/
theorem resolve_sees_on_pattern (wft : t.WellFormed) (wfu : u.WellFormed) {segments : List String}
    (ordinary : ∀ s ∈ segments, isMultiLevel s = false) {root : String}
    (same : ∀ path, OnPattern t segments root path → t.shows path = u.shows path)
    (target : Target) :
    resolve t segments target 0 root = resolve u segments target 0 root ∧
    ∀ e, resolve t segments target 0 root = .error e →
      ∃ path, OnPattern t segments root path ∧ t.enter path = .error e := by
  simp only [resolve_eq_explore, List.drop_zero]
  refine ⟨?_, ?_⟩
  · apply explore_congr wft wfu
    intro path opens
    exact same path (.of_opens wft ordinary opens)
  · intro e failed
    obtain ⟨path, opens, closed⟩ := explore_eq_error wft failed
    exact ⟨path, .of_opens wft ordinary opens, closed⟩

/-- A tree with entries of unknown kind in a directory off the pattern `a*/*` and below the
pattern. -/
def loopsApart : Tree where
  kind := .directory
  below := .place "ab" .directory
    (.place "x" .file .nil (.place "d" .directory (.place "l" .loop .nil .nil) .nil))
    (.place "b" .directory (.place "l" .loop .nil .nil) .nil)

/-- The same tree with directories that cannot be listed instead. -/
def locksApart : Tree where
  kind := .directory
  below := .place "ab" .directory (.place "x" .file .nil (.place "d" .denied .nil .nil))
    (.place "b" .denied .nil .nil)

/-- On the pattern are the root and one directory. -/
theorem onPattern_loopsApart {path : String} (h : OnPattern loopsApart ["a*", "*"] "/" path) :
    path = "/" ∨ path = "/ab" := by
  cases h with
  | inl own => exact .inl own
  | inr deeper =>
    obtain ⟨here, first, more, names, c, hr, hs, ne, described, hat, -, rfl⟩ := deeper
    obtain rfl : loopsApart = here := Option.some.inj hr
    cases described with
    | nil => exact .inl rfl
    | @cons segment name _ _ covers rest =>
      obtain ⟨rfl, hs⟩ := List.cons.inj hs
      cases rest with
      | cons _ _ =>
        simp only [List.cons_append, List.cons.injEq, List.nil_eq, List.append_eq_nil_iff] at hs
        exact absurd hs.2.2.2 ne
      | nil =>
        have child : loopsApart.child? name ≠ none := by
          intro missing
          simp [Tree.at?_cons, missing] at hat
        by_cases own : name = "ab"
        · subst own
          exact .inr (by decide)
        · by_cases beside : name = "b"
          · subst beside
            exact absurd covers (by decide)
          · simp [loopsApart, Tree.child?, Forest.find?, Ne.symm own, Ne.symm beside] at child

/-- What differs apart from the pattern makes no difference. -/
theorem resolve_sees_nothing_apart :
    loopsApart.WellFormed ∧ locksApart.WellFormed ∧
    loopsApart.shows "/b" ≠ locksApart.shows "/b" ∧
    loopsApart.shows "/ab/d" ≠ locksApart.shows "/ab/d" ∧
    ∃ s, resolve loopsApart ["a*", "*"] .file 0 "/" = .ok s ∧
      resolve locksApart ["a*", "*"] .file 0 "/" = .ok s ∧ s.contains "/ab/x" = true := by
  have wft : loopsApart.WellFormed := by decide
  have wfu : locksApart.WellFormed := by decide
  have ordinary : ∀ s ∈ ["a*", "*"], isMultiLevel s = false := by decide
  have same : ∀ path, OnPattern loopsApart ["a*", "*"] "/" path →
      loopsApart.shows path = locksApart.shows path := by
    intro path h
    cases onPattern_loopsApart h with
    | inl root => subst root; rfl
    | inr below => subst below; rfl
  have outcomes := (resolve_sees_on_pattern wft wfu ordinary same .file).1
  have found : ((resolve loopsApart ["a*", "*"] .file 0 "/").toOption.map
      fun s => s.contains "/ab/x") = some true := by decide +kernel
  refine ⟨wft, wfu, (by intro h; cases h), (by intro h; cases h), ?_⟩
  cases hs : resolve loopsApart ["a*", "*"] .file 0 "/" with
  | error e => simp [hs, Except.toOption] at found
  | ok s =>
    rw [hs] at outcomes found
    exact ⟨s, rfl, outcomes.symm, Option.some.inj found⟩

end TreeSift.Wildcard
