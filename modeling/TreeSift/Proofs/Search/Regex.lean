/-
  TreeSift.Proofs.Search.Regex — what a search by regular expression finds.

  Every entry of the wanted kind is met once, in the order of the walk, and is
  kept if the expression matches in its tested text. Paths are joined onto the
  root as it is spelled, so cutting its length off a path leaves the names joined
  by slashes, after a slash or not (`relativePath_pathTo`); of what is kept, the
  set has the first spellings (`search_regex_members`).

    §1 Texts     `testedText`, `relativePath_pathTo`
    §2 Members   `search_regex_members`
-/
import TreeSift.Proofs.PathSet.Gathering
import TreeSift.Proofs.Search.Candidates

namespace TreeSift

open Tree (pathTo relativeText stem)

/-! ## §1 Texts -/

/-- The text in which a match is looked for: names joined by slashes, without the
separators that they begin with. -/
def testedText (names : List String) : String :=
  String.ofList (("/".intercalate names).toList.dropWhile isSeparator)

theorem relativeText_eq (names : List String) :
    relativeText names = ("/".intercalate names).toList := Text.joined_toList names

/-- The path of a place, with the names joined at once. -/
theorem Tree.pathTo_eq {path : String} {names : List String} (ne : names ≠ [])
    (areNames : ∀ n ∈ names, IsName n) : pathTo path names = stem path ++ "/".intercalate names := by
  apply String.toList_injective
  rw [toList_pathTo ne areNames, relativeText_eq, String.toList_append]

/-- Whatever comes after a root is left when the root is cut off. -/
theorem relativePath_stem (root text : String) :
    relativePath (stem root ++ text) root =
      String.ofList (text.toList.dropWhile isSeparator) := by
  rw [relativePath, String.toList_append, ← String.length_toList]
  unfold stem
  split
  · rw [List.drop_left]
  · rw [String.toList_append, List.append_assoc, List.drop_left]
    rfl

/-- What is left of the path of a place without the path of the root is its
tested text, whether or not the root ends with a slash. -/
theorem relativePath_pathTo {root : String} {names : List String} (ne : names ≠ [])
    (areNames : ∀ n ∈ names, IsName n) :
    relativePath (pathTo root names) root = testedText names := by
  rw [Tree.pathTo_eq ne areNames, relativePath_stem, testedText]

/-- If the first name does not begin with a backslash, all names are left whole. -/
theorem testedText_eq {name : String} {rest : List String} (isName : IsName name)
    (plain : name.toList.head? ≠ some '\\') :
    testedText (name :: rest) = "/".intercalate (name :: rest) := by
  have some : name.toList ≠ [] := fun hn => isName.ne_empty (String.toList_eq_nil_iff.1 hn)
  obtain ⟨c, cs, hc⟩ := List.exists_cons_of_ne_nil some
  have notSlash : c ≠ '/' := by
    rintro rfl
    exact isName.no_slash (hc ▸ List.mem_cons_self)
  have notBackslash : c ≠ '\\' := by
    rintro rfl
    exact plain (by rw [hc]; rfl)
  have kept : isSeparator c = false := by simp [isSeparator, notSlash, notBackslash]
  obtain ⟨more, hmore⟩ : ∃ more, ("/".intercalate (name :: rest)).toList = c :: more := by
    cases rest with
    | nil => exact ⟨cs, by rw [String.intercalate_singleton, hc]⟩
    | cons next others =>
      refine ⟨cs ++ ("/" ++ "/".intercalate (next :: others)).toList, ?_⟩
      rw [String.intercalate_cons_cons, String.append_assoc, String.toList_append, hc]
      rfl
  rw [testedText, hmore, List.dropWhile_cons_of_neg (by simp [kept]), ← hmore, String.ofList_toList]

/-! ## §2 Members -/

/-- The star describes every name. -/
theorem Wildcard.ofText_star : Glob.ofText "*" = everyName := by decide

/-- Everything of the wanted kind below a directory, each place once. -/
theorem Tree.descendants_everyName {t here : Tree} {dir : String} (h : t.resolve? dir = some here)
    (wf : here.WellFormed) {target : Target} {ps : List String}
    (hd : t.descendants dir Wildcard.everyName target = .ok ps) :
    ∃ qs : List Tree.Place, ps = qs.map (fun q => pathTo dir q.names) ∧
      (∀ q, q ∈ qs ↔ here.at? q.names = some q.tree ∧ target.wants q.tree = true) ∧
      (qs.map Tree.Place.names).Nodup := by
  rw [descendants_eq h] at hd
  obtain ⟨qs, hs, rfl⟩ := map_located_eq_ok hd
  refine ⟨_, rfl, fun q => ?_, (nodup_survey wf hs).sublist (List.filter_sublist.map _)⟩
  rw [List.mem_filter, mem_survey wf hs, Tree.Place.suits_iff]
  simp [Wildcard.covers_everyName]

/-- **What a search by regular expression finds.** A search that succeeds has met
every entry of the wanted kind below the root once, in the order of the walk. Its
members are the paths of those in whose tested text the expression matches, in
that order and without those that an earlier one equals up to case. The tested
text is the names joined by slashes unless the first one begins with a backslash. -/
theorem search_regex_members {t : Tree} (wf : t.WellFormed) {root pattern sep : String}
    {target : Target} {r : Regex} (compiled : searchRegex pattern sep = .ok r) {f : Finding}
    (found : search t (.regex sep) (.of root pattern target) = .ok f) :
    ∃ (here : Tree) (qs : List Tree.Place), t.resolve? root = some here ∧
      (∀ q, q ∈ qs ↔ here.at? q.names = some q.tree ∧ target.wants q.tree = true) ∧
      (qs.map Tree.Place.names).Nodup ∧
      t.descendants root (Glob.ofText "*") target = .ok (qs.map fun q => pathTo root q.names) ∧
      f.paths.toList = firstSpellings
        ((qs.filter fun q => r.isFoundIn (testedText q.names)).map fun q => pathTo root q.names) ∧
      ∀ q ∈ qs, ∀ name rest, q.names = name :: rest → name.toList.head? ≠ some '\\' →
        testedText q.names = "/".intercalate q.names := by
  obtain ⟨here, hres, -, hp⟩ := search_eq_ok found
  have wfHere := wf.of_resolve? hres
  simp only [Inquiry.paths, compiled, Fallible.ok_bind] at hp
  obtain ⟨ps, hd, hf⟩ := Fallible.bind_eq_ok.1 (Fallible.mapError_eq_ok.1 hp)
  obtain ⟨qs, rfl, members, once⟩ := Tree.descendants_everyName hres wfHere hd
  have proper : ∀ q ∈ qs, ∀ n ∈ q.names, IsName n :=
    fun q hq => (wfHere.of_at? ((members q).1 hq).1).1
  refine ⟨here, qs, hres, members, once, ?_, ?_, ?_⟩
  · rw [Wildcard.ofText_star]
    exact hd
  · have same : qs.filter ((fun p => r.isFoundIn (relativePath p root)) ∘
        fun q => pathTo root q.names) = qs.filter fun q => r.isFoundIn (testedText q.names) := by
      refine List.filter_congr fun q hq => ?_
      rw [Function.comp_apply, relativePath_pathTo q.names_ne_nil (proper q hq)]
    have listed := congrArg PathSet.toList (Except.ok.inj hf)
    rw [PathSet.toList_ofList, List.filter_map, same] at listed
    exact listed.symm
  · intro q hq name rest hnames plain
    have isName : IsName name := proper q hq name (hnames ▸ List.mem_cons_self)
    rw [hnames, testedText_eq isName plain]

/-- A tree with two spellings of a name in two lines, and with a name that begins
with a backslash. -/
def spelledTwice : Tree :=
  .ofPlaces [("/r/X\ny", .file), ("/r/d/a", .file), ("/r/x\nY", .file), ("/r/\\x", .file)]

/-- The second spelling is left out, and the backslash is not part of the tested text. -/
theorem search_regex_spelled_twice :
    spelledTwice.WellFormed ∧ ∃ r, searchRegex "^x" "/" = .ok r ∧
      ∃ (here : Tree) (qs : List Tree.Place), spelledTwice.resolve? "/r/../r/" = some here ∧
        (∀ q, q ∈ qs ↔ here.at? q.names = some q.tree ∧ Target.file.wants q.tree = true) ∧
        firstSpellings ((qs.filter fun q => r.isFoundIn (testedText q.names)).map
          fun q => pathTo "/r/../r/" q.names) = ["/r/../r/X\ny", "/r/../r/\\x"] := by
  have wf : spelledTwice.WellFormed := by decide
  have listed : ((search spelledTwice (.regex "/") (.of "/r/../r/" "^x" .file)).toOption.map
      fun f => f.paths.toList) = some ["/r/../r/X\ny", "/r/../r/\\x"] := by
    decide +kernel
  obtain ⟨r, compiled⟩ : ∃ r, searchRegex "^x" "/" = .ok r := ⟨_, rfl⟩
  cases found : search spelledTwice (.regex "/") (.of "/r/../r/" "^x" .file) with
  | error e => exact absurd (found ▸ listed) (by simp [Except.toOption])
  | ok f =>
    rw [found] at listed
    obtain ⟨here, qs, hres, members, -, -, kept, -⟩ := search_regex_members wf compiled found
    exact ⟨wf, r, compiled, here, qs, hres, members, kept ▸ Option.some.inj listed⟩

end TreeSift
