/-
  TreeSift.Proofs.Search.Opening — the paths that a search opens.

  Segments that are resolved from a directory open its own path, or those of a walk
  that starts there, and then what the rest of the segments opens from each of the
  directories that were found, as long as nothing fails (`Wildcard.Opens`). Every path
  is joined from names of entries, so it names the directory it was read from, however
  the root is spelled. A search can therefore fail only at directories that refuse to
  be listed and at entries of unknown kind (`search_opens_directories`).

    §1 In turn    `ComesTo`, `collect_congr`, `collect_eq_error`
    §2 Segments   `Walks`, `Opens`, `Opens.isDirectory`
    §3 Outcomes   `explore_congr`, `explore_eq_error`
    §4 Searches   `Inquiry.Opens`, `search_opens_directories`
-/
import Mathlib.Data.List.Basic
import TreeSift.Proofs.Search.Explore
import TreeSift.Proofs.Tree.Opening
import TreeSift.Search.Basic

namespace TreeSift

namespace Wildcard

/-! ## §1 In turn -/

/-- The directories among some whose turn comes: nothing has failed before. -/
inductive ComesTo (find : String → Except ListingError PathSet) : List String → String → Prop
  | now {d : String} {rest : List String} : ComesTo find (d :: rest) d
  | later {before d : String} {rest : List String} (passed : ∃ s, find before = .ok s)
      (comes : ComesTo find rest d) : ComesTo find (before :: rest) d

variable {find other : String → Except ListingError PathSet} {dirs : List String}

theorem ComesTo.mem {d : String} (comes : ComesTo find dirs d) : d ∈ dirs := by
  induction comes with
  | now => exact List.mem_cons_self
  | later _ _ ih => exact List.mem_cons_of_mem _ ih

/-- Only what is found below the directories whose turn comes matters. -/
theorem collect_congr (same : ∀ d, ComesTo find dirs d → find d = other d) :
    collect dirs find = collect dirs other := by
  suffices onward : ∀ sofar : PathSet,
      dirs.foldlM (fun found dir => do return found.insertAll (← find dir).toList) sofar =
        dirs.foldlM (fun found dir => do return found.insertAll (← other dir).toList) sofar from
    onward .empty
  induction dirs with
  | nil => exact fun _ => rfl
  | cons d rest ih =>
    intro sofar
    rw [List.foldlM_cons, List.foldlM_cons, ← same d .now]
    cases hd : find d with
    | error e => rfl
    | ok s => exact ih (fun d' comes => same d' (.later ⟨s, hd⟩ comes)) _

/-- What fails is what is found below one of these directories. -/
theorem collect_eq_error {e : ListingError} (h : collect dirs find = .error e) :
    ∃ d, ComesTo find dirs d ∧ find d = .error e := by
  suffices onward : ∀ sofar : PathSet,
      dirs.foldlM (fun found dir => do return found.insertAll (← find dir).toList) sofar =
        .error e → ∃ d, ComesTo find dirs d ∧ find d = .error e from
    onward _ h
  clear h
  induction dirs with
  | nil => intro sofar h; cases h
  | cons d rest ih =>
    intro sofar h
    rw [List.foldlM_cons, Fallible.bind_eq_error] at h
    cases h with
    | inl failed =>
      rw [bind_pure_comp, Fallible.map_eq_error] at failed
      exact ⟨d, .now, failed⟩
    | inr passed =>
      obtain ⟨sofar', found, h⟩ := passed
      obtain ⟨s, hs, -⟩ := Fallible.bind_eq_ok.1 found
      obtain ⟨d', comes, failed⟩ := ih _ h
      exact ⟨d', .later ⟨s, hs⟩ comes, failed⟩

/-! ## §2 Segments -/

/-- Whether segments begin with a walk through everything below. -/
def Walks (target : Target) : List String → Prop
  | [] => False
  | [segment] => target = .directory ∧ isMultiLevel segment = true
  | segment :: _ :: _ => isMultiLevel segment = true

/-- The paths that are opened when segments are resolved from a directory. -/
inductive Opens (t : Tree) (target : Target) : List String → String → String → Prop
  | own {segments : List String} {dir : String} (some : segments ≠ [])
      (flat : ¬ Walks target segments) : Opens t target segments dir dir
  | walked {segments : List String} {dir path : String} (deep : Walks target segments)
      (opens : Tree.Walker.Opens t (.start dir) path) : Opens t target segments dir path
  | child {segment next : String} {rest dirs : List String} {dir d path : String}
      (ordinary : isMultiLevel segment = false)
      (listed : t.children dir (Glob.ofText segment) .directory = .ok dirs)
      (comes : ComesTo (explore t target (next :: rest)) dirs d)
      (onward : Opens t target (next :: rest) d path) :
      Opens t target (segment :: next :: rest) dir path
  | deeper {marker next : String} {rest dirs : List String} {dir d path : String}
      (deep : isMultiLevel marker = true) (more : rest ≠ [])
      (listed : t.descendants dir (Glob.ofText next) .directory = .ok dirs)
      (comes : ComesTo (explore t target rest) dirs d) (onward : Opens t target rest d path) :
      Opens t target (marker :: next :: rest) dir path

variable {t u : Tree} {target : Target}

/-- A directory among the candidates is named by its path. -/
theorem isDirectory_of_found {here : Tree} (wf : here.WellFormed) {dir : String}
    (h : t.resolve? dir = some here) {q : Tree.Place} (hat : here.at? q.names = some q.tree)
    (wanted : Target.directory.wants q.tree = true) :
    t.isDirectory (Tree.pathTo dir q.names) = true :=
  isDirectory_iff.2 ⟨q.tree, Tree.resolve?_pathTo h (wf.of_at? hat).1 hat, wanted⟩

/-- **Every path that is opened names a directory.** -/
theorem Opens.isDirectory (wf : t.WellFormed) {segments : List String} {dir path : String}
    (h : t.isDirectory dir = true) (opens : Opens t target segments dir path) :
    t.isDirectory path = true := by
  induction opens with
  | own => exact h
  | walked deep opens => exact Tree.Walker.isDirectory_of_opens wf h opens
  | child ordinary listed comes onward ih =>
    obtain ⟨here, hr, -⟩ := isDirectory_iff.1 h
    obtain ⟨qs, rfl, hqs⟩ := Tree.children_eq_ok hr (wf.of_resolve? hr) listed
    obtain ⟨q, hq, rfl⟩ := List.mem_map.1 comes.mem
    obtain ⟨hat, wanted, -⟩ := (hqs q).1 hq
    exact ih (isDirectory_of_found (wf.of_resolve? hr) hr hat wanted)
  | deeper deep more listed comes onward ih =>
    obtain ⟨here, hr, -⟩ := isDirectory_iff.1 h
    obtain ⟨qs, rfl, hqs⟩ := Tree.descendants_eq_ok hr (wf.of_resolve? hr) listed
    obtain ⟨q, hq, rfl⟩ := List.mem_map.1 comes.mem
    obtain ⟨hat, wanted, -⟩ := (hqs q).1 hq
    exact ih (isDirectory_of_found (wf.of_resolve? hr) hr hat wanted)

/-! ## §3 Outcomes -/

theorem resolveLast_of_walks {segment : String} (deep : Walks target [segment]) (dir : String) :
    resolveLast t segment target dir = t.descendants dir everyName target := by
  obtain ⟨rfl, marker⟩ := deep
  exact if_pos marker

theorem resolveLast_of_flat {segment : String} (flat : ¬ Walks target [segment]) (dir : String) :
    resolveLast t segment target dir = t.children dir (Glob.ofText segment) target := by
  cases target with
  | file => rfl
  | directory => exact if_neg fun marker => flat ⟨rfl, marker⟩

/-- A walk at the beginning finds the same in a tree that shows the same. -/
theorem Walks.descendants_congr (wft : t.WellFormed) (wfu : u.WellFormed) {segments : List String}
    (deep : Walks target segments) {dir : String}
    (same : ∀ path, Opens t target segments dir path → t.shows path = u.shows path) (glob : Glob)
    (wanted : Target) : t.descendants dir glob wanted = u.descendants dir glob wanted := by
  apply Tree.descendants_congr wft wfu
  intro path opens
  exact same path (.walked deep opens)

theorem resolveLast_congr (wft : t.WellFormed) (wfu : u.WellFormed) {segment dir : String}
    (same : ∀ path, Opens t target [segment] dir path → t.shows path = u.shows path) :
    resolveLast t segment target dir = resolveLast u segment target dir := by
  by_cases deep : Walks target [segment]
  · rw [resolveLast_of_walks deep, resolveLast_of_walks deep]
    exact deep.descendants_congr wft wfu same _ _
  · rw [resolveLast_of_flat deep, resolveLast_of_flat deep]
    exact Tree.children_congr (same dir (.own (by simp) deep)) _ _

/-- **Segments lead to the same in another tree** if all paths that are opened show the
same there. -/
theorem explore_congr (wft : t.WellFormed) (wfu : u.WellFormed) {segments : List String}
    {dir : String}
    (same : ∀ path, Opens t target segments dir path → t.shows path = u.shows path) :
    explore t target segments dir = explore u target segments dir := by
  fun_induction explore t target segments dir with
  | case1 dir => rfl
  | case2 segment dir => rw [explore, resolveLast_congr wft wfu same]
  | case3 segment next dir marker =>
    have deep : Walks target [segment, next] := marker
    rw [explore, if_pos marker, if_pos rfl, deep.descendants_congr wft wfu same]
  | case4 segment next rest dir marker more ih =>
    have deep : Walks target (segment :: next :: rest) := marker
    rw [explore, if_pos marker, if_neg more, ← deep.descendants_congr wft wfu same]
    cases listed : t.descendants dir (Glob.ofText next) .directory with
    | error e => rfl
    | ok dirs =>
      apply collect_congr
      intro d comes
      apply ih
      intro path onward
      exact same path (.deeper marker more listed comes onward)
  | case5 segment next rest dir ordinary ih =>
    have flat : ¬ Walks target (segment :: next :: rest) := ordinary
    rw [explore, if_neg ordinary, ← Tree.children_congr (same dir (.own (by simp) flat))]
    cases listed : t.children dir (Glob.ofText segment) .directory with
    | error e => rfl
    | ok dirs =>
      apply collect_congr
      intro d comes
      apply ih
      intro path onward
      exact same path (.child (by simpa using ordinary) listed comes onward)

theorem children_eq_error {dir : String} {glob : Glob} {e : ListingError}
    (h : t.children dir glob target = .error e) : t.enter dir = .error e := by
  rw [Tree.children_eq_enter] at h
  exact Fallible.map_eq_error.1 h

theorem descendants_eq_error (wf : t.WellFormed) {dir : String} {glob : Glob} {e : ListingError}
    (h : t.descendants dir glob target = .error e) :
    ∃ path, Tree.Walker.Opens t (.start dir) path ∧ t.enter path = .error e :=
  Tree.traversal_eq_error wf (Tree.descendants_eq_error_iff.1 h)

/-- A walk at the beginning that fails does so at a path that was opened. -/
theorem Walks.eq_error (wf : t.WellFormed) {segments : List String} (deep : Walks target segments)
    {dir : String} {glob : Glob} {wanted : Target} {e : ListingError}
    (h : t.descendants dir glob wanted = .error e) :
    ∃ path, Opens t target segments dir path ∧ t.enter path = .error e := by
  obtain ⟨path, opens, failed⟩ := descendants_eq_error wf h
  exact ⟨path, .walked deep opens, failed⟩

/-- **Segments that fail do so at a path that was opened.** -/
theorem explore_eq_error (wf : t.WellFormed) {segments : List String} {dir : String}
    {e : ListingError} (h : explore t target segments dir = .error e) :
    ∃ path, Opens t target segments dir path ∧ t.enter path = .error e := by
  fun_induction explore t target segments dir with
  | case1 dir => cases h
  | case2 segment dir =>
    rw [bind_pure_comp, Fallible.map_eq_error] at h
    by_cases deep : Walks target [segment]
    · rw [resolveLast_of_walks deep] at h
      exact deep.eq_error wf h
    · rw [resolveLast_of_flat deep] at h
      exact ⟨dir, .own (by simp) deep, children_eq_error h⟩
  | case3 segment next dir marker =>
    have deep : Walks target [segment, next] := marker
    rw [bind_pure_comp, Fallible.map_eq_error] at h
    exact deep.eq_error wf h
  | case4 segment next rest dir marker more ih =>
    have deep : Walks target (segment :: next :: rest) := marker
    rw [Fallible.bind_eq_error] at h
    cases h with
    | inl failed => exact deep.eq_error wf failed
    | inr passed =>
      obtain ⟨dirs, listed, h⟩ := passed
      obtain ⟨d, comes, failed⟩ := collect_eq_error h
      obtain ⟨path, onward, failed⟩ := ih d failed
      exact ⟨path, .deeper marker more listed comes onward, failed⟩
  | case5 segment next rest dir ordinary ih =>
    rw [Fallible.bind_eq_error] at h
    cases h with
    | inl failed => exact ⟨dir, .own (by simp) ordinary, children_eq_error failed⟩
    | inr passed =>
      obtain ⟨dirs, listed, h⟩ := passed
      obtain ⟨d, comes, failed⟩ := collect_eq_error h
      obtain ⟨path, onward, failed⟩ := ih d failed
      exact ⟨path, .child (by simpa using ordinary) listed comes onward, failed⟩

end Wildcard

/-! ## §4 Searches -/

/-- The paths that are opened for an inquiry. -/
def Inquiry.Opens (t : Tree) (q : Inquiry) : Method → String → Prop
  | .wildcard, path => Wildcard.Opens t q.target (Pattern.segments q.pattern) q.root path
  | .regex sep, path =>
    (∃ r, searchRegex q.pattern sep = .ok r) ∧ Tree.Walker.Opens t (.start q.root) path

variable {t u : Tree} {q : Inquiry} {method : Method}

theorem Inquiry.Opens.isDirectory (wf : t.WellFormed) (root : t.isDirectory q.root = true)
    {path : String} (opens : q.Opens t method path) : t.isDirectory path = true := by
  cases method with
  | wildcard => exact Wildcard.Opens.isDirectory wf root opens
  | regex sep => exact Tree.Walker.isDirectory_of_opens wf root opens.2

theorem Inquiry.paths_congr (wft : t.WellFormed) (wfu : u.WellFormed)
    (same : ∀ path, q.Opens t method path → t.shows path = u.shows path) :
    q.paths t method = q.paths u method := by
  cases method with
  | wildcard =>
    simp only [Inquiry.paths, Wildcard.resolve_eq_explore, List.drop_zero]
    rw [Wildcard.explore_congr wft wfu same]
  | regex sep =>
    simp only [Inquiry.paths, relativeMatches]
    cases hr : searchRegex q.pattern sep with
    | error e => rfl
    | ok r =>
      have walked : ∀ path, Tree.Walker.Opens t (.start q.root) path →
          t.shows path = u.shows path := fun path opens => same path ⟨⟨r, hr⟩, opens⟩
      rw [Tree.descendants_congr wft wfu walked]

/-- A pattern that is refused is not refused for what is in a tree. -/
theorem searchRegex_ne_listing {pattern sep : String} {e : ListingError} :
    searchRegex pattern sep ≠ .error (.listing e) := by
  unfold searchRegex
  dsimp only
  split <;> simp

/-- Enumeration fails at a path that was opened. -/
theorem Inquiry.paths_eq_listing (wf : t.WellFormed) {e : ListingError}
    (h : q.paths t method = .error (.listing e)) :
    ∃ path, q.Opens t method path ∧ t.enter path = .error e := by
  cases method with
  | wildcard =>
    simp only [Inquiry.paths, Wildcard.resolve_eq_explore, List.drop_zero] at h
    obtain ⟨f, hf, same⟩ := Fallible.mapError_eq_error.1 h
    obtain rfl := Failure.listing.inj same
    exact Wildcard.explore_eq_error wf hf
  | regex sep =>
    simp only [Inquiry.paths, Fallible.bind_eq_error] at h
    cases h with
    | inl refused => exact absurd refused searchRegex_ne_listing
    | inr accepted =>
      obtain ⟨r, hr, h⟩ := accepted
      obtain ⟨f, hf, same⟩ := Fallible.mapError_eq_error.1 h
      obtain rfl := Failure.listing.inj same
      rw [relativeMatches, bind_pure_comp, Fallible.map_eq_error] at hf
      obtain ⟨path, opens, failed⟩ := Wildcard.descendants_eq_error wf hf
      exact ⟨path, ⟨⟨r, hr⟩, opens⟩, failed⟩

theorem Inquiry.refuses_of_listing (wf : t.WellFormed) (root : t.isDirectory q.root = true)
    {e : ListingError} (h : q.paths t method = .error (.listing e)) :
    ∃ path, q.Opens t method path ∧ t.Refuses path e := by
  obtain ⟨path, opens, failed⟩ := Inquiry.paths_eq_listing wf h
  exact ⟨path, opens, Tree.enter_eq_error wf (opens.isDirectory wf root) failed⟩

/-- The kinds of failure that stand for a path which is missing or leads to no directory. -/
def Failure.IsMissing (e : Failure) : Prop :=
  e.name = "FileNotFoundError" ∨ e.name = "NotADirectoryError"

/-- Only enumeration can meet a missing path. -/
theorem Failure.IsMissing.listing {e : Failure} (h : e.IsMissing) : ∃ l, e = .listing l := by
  cases e with
  | listing l => exact ⟨l, rfl⟩
  | search s => cases s <;> simp [IsMissing, name, SearchError.name] at h
  | pattern r => cases r <;> simp [IsMissing, name] at h
  | unknownTarget _ => simp [IsMissing, name] at h
  | notAPath => simp [IsMissing, name] at h
  | custom _ => simp [IsMissing, name] at h

/-- A directory that refuses to be entered is not missing. -/
theorem Tree.Refuses.not_isMissing {path : String} {l : ListingError} (h : t.Refuses path l) :
    ¬ (Failure.listing l).IsMissing := by
  obtain ⟨here, -, ⟨-, rfl⟩ | ⟨name, c, -, -, rfl⟩⟩ := h
  · simp [Failure.IsMissing, Failure.name, ListingError.name]
  · simp [Failure.IsMissing, Failure.name, ListingError.name]

/-- **A valid root never turns into a missing path.** Every path that a search opens names
a directory. A search that fails does not report a missing path; if enumeration is what
fails, then at a directory that was opened and that cannot be listed or has an entry of
unknown kind. No more is seen of the tree: in any other one that shows the same at the
paths that are opened the search comes to the same. -/
theorem search_opens_directories (wf : t.WellFormed) {root : String}
    (valid : checkRoot t (.path root) = .ok root) (method : Method) (pattern : String)
    (target : Target) :
    (∀ path, Inquiry.Opens t ⟨root, pattern, target⟩ method path → t.isDirectory path = true) ∧
    (∀ e, search t method (.of root pattern target) = .error e → ¬ e.IsMissing ∧
      ∀ l, e = .listing l → ∃ path, Inquiry.Opens t ⟨root, pattern, target⟩ method path ∧
        t.Refuses path l) ∧
    (∀ u : Tree, u.WellFormed → checkRoot u (.path root) = .ok root →
      (∀ path, Inquiry.Opens t ⟨root, pattern, target⟩ method path →
        t.shows path = u.shows path) →
      search t method (.of root pattern target) = search u method (.of root pattern target)) := by
  have dir : t.isDirectory root = true := isDirectory_iff.2 (checkRoot_eq_ok valid).2
  have outcome : ∀ v : Tree, checkRoot v (.path root) = .ok root →
      search v method (.of root pattern target) =
        (fun paths => ⟨⟨root, pattern, target⟩, paths⟩) <$>
          Inquiry.paths v ⟨root, pattern, target⟩ method := by
    intro v valid
    rw [search_of, valid, Fallible.ok_bind, bind_pure_comp]
  refine ⟨fun path opens => opens.isDirectory wf dir, ?_, ?_⟩
  · intro e failed
    rw [outcome t valid, Fallible.map_eq_error] at failed
    have refused : ∀ l, e = .listing l → ∃ path,
        Inquiry.Opens t ⟨root, pattern, target⟩ method path ∧ t.Refuses path l := by
      intro l hl
      exact Inquiry.refuses_of_listing wf dir (hl ▸ failed)
    refine ⟨?_, refused⟩
    intro missing
    obtain ⟨l, rfl⟩ := missing.listing
    obtain ⟨path, -, refuses⟩ := refused l rfl
    exact refuses.not_isMissing missing
  · intro u wfu validu same
    rw [outcome t valid, outcome u validu, Inquiry.paths_congr wf wfu same]

/-- A tree with a directory that cannot be listed, and with an entry of unknown kind. -/
def lockedBelow : Tree :=
  .ofPlaces [("/r/ab/x", .file), ("/r/ab/c/locked", .denied), ("/r/b/l", .loop)]

/-- Below a root that is spelled with dots and slashes, a search meets the directory that
cannot be listed by a path that names it. -/
theorem search_opens_locked :
    lockedBelow.WellFormed ∧ checkRoot lockedBelow (.path "r/../r//") = .ok "r/../r//" ∧
    ∃ e, search lockedBelow .wildcard (.of "r/../r//" "a*/**/x" .file) = .error e ∧
      e = .listing (.denied "r/../r//ab/c/locked") ∧ ¬ e.IsMissing ∧
      ∃ path, Inquiry.Opens lockedBelow ⟨"r/../r//", "a*/**/x", .file⟩ .wildcard path ∧
        lockedBelow.isDirectory path = true ∧
        lockedBelow.Refuses path (.denied "r/../r//ab/c/locked") := by
  have wf : lockedBelow.WellFormed := by decide
  have valid : checkRoot lockedBelow (.path "r/../r//") = .ok "r/../r//" := rfl
  obtain ⟨directories, failing, -⟩ :=
    search_opens_directories wf valid .wildcard "a*/**/x" .file
  have outcome : (search lockedBelow .wildcard (.of "r/../r//" "a*/**/x" .file)).map (fun _ => ()) =
      .error (.listing (.denied "r/../r//ab/c/locked")) := by decide +kernel
  refine ⟨wf, valid, ?_⟩
  cases hs : search lockedBelow .wildcard (.of "r/../r//" "a*/**/x" .file) with
  | ok f => simp [hs, Except.map] at outcome
  | error e =>
    obtain rfl : e = .listing (.denied "r/../r//ab/c/locked") := by
      simpa [hs, Except.map] using outcome
    obtain ⟨found, refused⟩ := failing _ hs
    obtain ⟨path, opens, refuses⟩ := refused _ rfl
    exact ⟨_, rfl, rfl, found, path, opens, directories path opens, refuses⟩

end TreeSift
