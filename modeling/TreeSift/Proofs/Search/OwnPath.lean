/-
  TreeSift.Proofs.Search.OwnPath — entries are found by their own paths.

  The names that lead to an entry, joined by slashes, are a pattern. If no name has
  blanks at its ends or is a multi-level marker, the segments of this pattern are the
  names again, and each of them describes itself, wildcards and all (`covers_self`). So
  a search for the pattern that succeeds has found the entry, in one spelling or another
  (`search_own_path`).

    §1 Names     `Glob.covers_self`, `fits_self`
    §2 Searches  `search_own_path`
-/
import TreeSift.Proofs.Glob.Cutting
import TreeSift.Proofs.Pattern.NormalForm
import TreeSift.Proofs.Search.Regex
import TreeSift.Proofs.Search.Wildcard

namespace TreeSift

/-! ## §1 Names -/

namespace Glob

/-- Every character takes itself, a star or a question mark too. -/
theorem takes_self (c : Char) : Takes c [c] := by
  by_cases star : c = '*'
  · subst star
    exact .star ['*']
  · by_cases mark : c = '?'
    · subst mark
      exact .mark '?'
    · exact .letter star mark (Text.alike_refl c)

theorem cuts_self (name : List Char) : Cuts name name := by
  induction name with
  | nil => exact cuts_nil.2 rfl
  | cons c rest ih => exact cuts_cons.2 ⟨[c], rest, rfl, takes_self c, ih⟩

/-- A name describes itself. -/
theorem covers_self (name : String) : (ofText name).covers name = true :=
  covers_iff_cuts.2 (cuts_self name.toList)

end Glob

namespace Wildcard

/-- Names of which none is a marker fit themselves. -/
theorem fits_self {target : Target} {names : List String}
    (ordinary : ∀ n ∈ names, isMultiLevel n = false) : Fits target names names := by
  induction names with
  | nil => exact .done
  | cons n rest ih =>
    obtain ⟨first, others⟩ := List.forall_mem_cons.1 ordinary
    exact .name first (Glob.covers_self n) (ih others)

theorem isChain_of_ordinary {names : List String}
    (ordinary : ∀ n ∈ names, isMultiLevel n = false) : names.IsChain Apart := by
  induction names with
  | nil => exact .nil
  | cons n rest ih =>
    obtain ⟨first, others⟩ := List.forall_mem_cons.1 ordinary
    rw [List.isChain_cons]
    refine ⟨?_, ih others⟩
    intro next _ both
    simp [first] at both

end Wildcard

/-! ## §2 Searches -/

/-- **Entries are found by their own paths.** Names that lead from the root to a file or
a directory, without blanks at their ends and without markers among them, are a pattern
when joined by slashes. A search for it that succeeds holds the path of the entry up to
case, whatever characters the names are made of. -/
theorem search_own_path {t : Tree} (wf : t.WellFormed) {root : String} {here : Tree}
    (h : t.resolve? root = some here) {names : List String} (ne : names ≠ []) {c : Tree}
    (hat : here.at? names = some c) {target : Target} (wanted : target.wants c = true)
    (trim : ∀ n ∈ names, Text.trim n = n) (ordinary : ∀ n ∈ names, isMultiLevel n = false)
    {f : Finding}
    (found : search t .wildcard (.of root ("/".intercalate names) target) = .ok f) :
    f.paths.contains (Tree.pathTo root names) = true := by
  obtain ⟨there, hr, -, hp⟩ := search_eq_ok found
  rw [h] at hr
  obtain rfl := Option.some.inj hr
  have wfHere := wf.of_resolve? h
  have areNames : ∀ n ∈ names, IsName n := (wfHere.of_at? hat).1
  have segments : Pattern.segments ("/".intercalate names) = names :=
    Pattern.segments_intercalate (fun n hn => (areNames n hn).ne_empty)
      (fun n hn => (areNames n hn).no_slash) trim (Wildcard.isChain_of_ordinary ordinary)
  have gathered := Wildcard.resolve_gathers (Wildcard.isChain_collapse _) h wfHere
    (Fallible.mapError_eq_ok.1 hp)
  rw [← Pattern.segments, segments, List.drop_zero] at gathered
  obtain ⟨q, rfl, rfl⟩ := Tree.Place.exists_of_names ne c
  have reached : Wildcard.Reached here root target q.names (Tree.pathTo root q.names) :=
    ⟨q, hat, wanted, Wildcard.fits_self ordinary, rfl⟩
  rw [PathSet.contains_iff]
  exact gathered.complete _ reached

/-- A tree with names that hold wildcards, brackets, a backslash and a line feed. -/
def awkwardNames : Tree :=
  .ofPlaces [("/r/[a]*?\\/x\ny", .file), ("/r/[a]*?\\/*\n?", .file), ("/r/a", .directory)]

/-- A file that is found by a path which describes another file too. -/
theorem search_own_awkward_path :
    awkwardNames.WellFormed ∧ Pattern.segments "[a]*?\\/*\n?" = ["[a]*?\\", "*\n?"] ∧
    ∃ f, search awkwardNames .wildcard (.of "r/." "[a]*?\\/*\n?" .file) = .ok f ∧
      f.paths.size = 2 ∧ f.paths.contains "r/./[a]*?\\/*\n?" = true := by
  have wf : awkwardNames.WellFormed := by decide
  have sizes : ((search awkwardNames .wildcard (.of "r/." "[a]*?\\/*\n?" .file)).toOption.map
      fun f => f.paths.size) = some 2 := by decide +kernel
  have trim : ∀ n ∈ ["[a]*?\\", "*\n?"], Text.trim n = n := by decide +kernel
  have ordinary : ∀ n ∈ ["[a]*?\\", "*\n?"], isMultiLevel n = false := by decide
  obtain ⟨here, hr, c, hat, wanted⟩ : ∃ here, awkwardNames.resolve? "r/." = some here ∧
      ∃ c, here.at? ["[a]*?\\", "*\n?"] = some c ∧ Target.file.wants c = true :=
    ⟨_, rfl, _, rfl, rfl⟩
  have joined : "/".intercalate ["[a]*?\\", "*\n?"] = "[a]*?\\/*\n?" := by decide +kernel
  have path : Tree.pathTo "r/." ["[a]*?\\", "*\n?"] = "r/./[a]*?\\/*\n?" := by decide +kernel
  refine ⟨wf, by decide +kernel, ?_⟩
  cases hf : search awkwardNames .wildcard (.of "r/." "[a]*?\\/*\n?" .file) with
  | error e => simp [hf, Except.toOption] at sizes
  | ok f =>
    rw [hf] at sizes
    have own := search_own_path wf hr (List.cons_ne_nil _ _) hat wanted trim ordinary
      (joined.symm ▸ hf)
    exact ⟨f, rfl, Option.some.inj sizes, path ▸ own⟩

end TreeSift
