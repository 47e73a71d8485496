/-
  TreeSift.Proofs.Search.Candidates — what the two sources of candidates give.

  Below a directory that a path names, the children are the suitable places of
  the directory and the descendants the suitable places of its survey, each with
  its path. Success means that the directory could be listed, and then the
  candidates are found by names alone (`children_eq_ok`, `descendants_eq_ok`).

    §1 Suitable places  `Target.wants`, `Place.suits`
    §2 Candidates       `children_eq_ok`, `descendants_eq_ok`
    §3 Requests         `checkRoot_eq_ok`, `search_eq_ok`
-/
import TreeSift.Proofs.Glob
import TreeSift.Proofs.Tree.Traversal
import TreeSift.Search.Basic

namespace TreeSift

/-! ## §1 Suitable places -/

/-- Whether a place is what a search looks for; a directory that cannot be listed
is a directory. -/
def Target.wants (target : Target) (c : Tree) : Bool :=
  match target with
  | .file => c.kind = .file
  | .directory => c.kind.isDirectory

/-- Every name is described by the glob for all names. -/
theorem Wildcard.covers_everyName (name : String) : everyName.covers name = true :=
  Glob.covers_runs (by simp [everyName]) (by simp [everyName]) name

namespace Tree

/-- Whether a place is what a search looks for and has a name that a glob describes. -/
def Place.suits (glob : Glob) (target : Target) (q : Place) : Bool :=
  target.wants q.tree && glob.covers q.name

theorem Place.suits_iff {glob : Glob} {target : Target} {q : Place} :
    q.suits glob target = true ↔ target.wants q.tree = true ∧ glob.covers q.name = true := by
  rw [suits, Bool.and_eq_true]

/-- The candidates among places with paths put in. -/
theorem candidates_entries (path : String) (glob : Glob) (target : Target) (qs : List Place) :
    candidates glob target (qs.map (Place.entry path)) =
      (qs.filter (Place.suits glob target)).map fun q => pathTo path q.names := by
  rw [candidates, List.filter_map, List.map_map]
  have same : (fun e => target.admits e && glob.covers e.name) ∘ Place.entry path =
      Place.suits glob target := by
    funext q
    cases target <;> rfl
  rw [same]
  rfl

/-! ## §2 Candidates -/

theorem children_eq {t here : Tree} {dir : String} (h : t.resolve? dir = some here) (glob : Glob)
    (target : Target) :
    t.children dir glob target = candidates glob target <$> located dir here.opened := by
  simp only [children, locate, h, located_opened, map_eq_pure_bind, bind_assoc, pure_bind,
    Fallible.ok_bind]

theorem descendants_eq {t here : Tree} {dir : String} (h : t.resolve? dir = some here)
    (glob : Glob) (target : Target) :
    t.descendants dir glob target = candidates glob target <$> located dir here.survey := by
  simp only [descendants, locate, h, walk_eq_located, map_eq_pure_bind, Fallible.ok_bind]

theorem map_located_eq_ok {path : String} {glob : Glob} {target : Target}
    {r : Except Obstacle (List Place)} {ps : List String}
    (h : candidates glob target <$> located path r = .ok ps) :
    ∃ qs, r = .ok qs ∧
      ps = (qs.filter (Place.suits glob target)).map fun q => pathTo path q.names := by
  cases r with
  | error o => exact absurd h (by simp [located])
  | ok qs =>
    refine ⟨qs, rfl, ?_⟩
    rw [← candidates_entries]
    exact (Except.ok.inj h).symm

/-- A directory that is listed has its children as candidates. -/
theorem children_eq_ok {t here : Tree} {dir : String} (h : t.resolve? dir = some here)
    (wf : here.WellFormed) {glob : Glob} {target : Target} {ps : List String}
    (hc : t.children dir glob target = .ok ps) :
    ∃ qs : List Place, ps = qs.map (fun q => pathTo dir q.names) ∧
      ∀ q, q ∈ qs ↔ here.at? q.names = some q.tree ∧ target.wants q.tree = true ∧
        q.above = [] ∧ glob.covers q.name = true := by
  rw [children_eq h] at hc
  obtain ⟨qs, ho, rfl⟩ := map_located_eq_ok hc
  obtain ⟨hk, rfl⟩ := opened_eq_ok ho
  refine ⟨_, rfl, fun q => ?_⟩
  have ht : here = ⟨.directory, here.below⟩ := by rw [← hk]
  rw [List.mem_filter, Forest.mem_tops wf, ← ht, Place.suits_iff]
  exact ⟨fun ⟨⟨a, b⟩, c, d⟩ => ⟨b, c, a, d⟩, fun ⟨b, c, a, d⟩ => ⟨⟨a, b⟩, c, d⟩⟩

/-- A directory that is walked has its descendants as candidates. -/
theorem descendants_eq_ok {t here : Tree} {dir : String} (h : t.resolve? dir = some here)
    (wf : here.WellFormed) {glob : Glob} {target : Target} {ps : List String}
    (hd : t.descendants dir glob target = .ok ps) :
    ∃ qs : List Place, ps = qs.map (fun q => pathTo dir q.names) ∧
      ∀ q, q ∈ qs ↔ here.at? q.names = some q.tree ∧ target.wants q.tree = true ∧
        glob.covers q.name = true := by
  rw [descendants_eq h] at hd
  obtain ⟨qs, hs, rfl⟩ := map_located_eq_ok hd
  refine ⟨_, rfl, fun q => ?_⟩
  rw [List.mem_filter, mem_survey wf hs, Place.suits_iff]

end Tree

/-! ## §3 Requests -/

theorem isDirectory_iff {t : Tree} {path : String} :
    t.isDirectory path = true ↔ ∃ here, t.resolve? path = some here ∧ here.kind.isDirectory := by
  unfold Tree.isDirectory
  cases t.resolve? path <;> simp

/-- A path to search is kept as it is, and names a directory. -/
theorem checkRoot_eq_ok {t : Tree} {path root : String} (h : checkRoot t (.path path) = .ok root) :
    root = path ∧ ∃ here, t.resolve? path = some here ∧ here.kind.isDirectory := by
  unfold checkRoot at h
  dsimp only at h
  split at h
  · exact absurd h (by simp)
  · rename_i hc
    simp only [Bool.or_eq_true, Bool.not_eq_true', not_or, Bool.not_eq_false] at hc
    exact ⟨(Except.ok.inj h).symm, isDirectory_iff.1 hc.2⟩

/-- The request for a pattern below a path. -/
def Request.of (root pattern : String) (target : Target) : Request :=
  ⟨some (.path root), some pattern, some target.name⟩

theorem search_of (t : Tree) (method : Method) (root pattern : String) (target : Target) :
    search t method (.of root pattern target) = do
      let root ← checkRoot t (.path root)
      let paths ← Inquiry.paths t ⟨root, pattern, target⟩ method
      return ⟨⟨root, pattern, target⟩, paths⟩ := by
  simp [search, Request.check, Request.of, required, checkTarget, Target.ofName?_name]

/-- A search that succeeds has found what its inquiry leads to, below a directory. -/
theorem search_eq_ok {t : Tree} {method : Method} {root pattern : String} {target : Target}
    {f : Finding} (h : search t method (.of root pattern target) = .ok f) :
    ∃ here, t.resolve? root = some here ∧ here.kind.isDirectory ∧
      Inquiry.paths t ⟨root, pattern, target⟩ method = .ok f.paths := by
  rw [search_of] at h
  obtain ⟨checked, hr, hrest⟩ := Fallible.bind_eq_ok.1 h
  obtain ⟨paths, hp, hf⟩ := Fallible.bind_eq_ok.1 hrest
  obtain ⟨rfl, here, hres, hdir⟩ := checkRoot_eq_ok hr
  obtain rfl := Except.ok.inj hf
  exact ⟨here, hres, hdir, hp⟩

end TreeSift
