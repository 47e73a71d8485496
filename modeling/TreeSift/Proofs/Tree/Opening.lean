/-
  TreeSift.Proofs.Tree.Opening — the paths that a walk opens.

  A walk opens paths: its own one first, then paths that are joined from names as it
  goes down (`Walker.Opens`). In a well-formed tree each of them names a directory
  (`isDirectory_of_opens`). The invariant is that the pile holds paths of directories
  only, and that an entry which is going to be put there has such a path.

  Of a tree a walk sees no more than names and kinds of the entries of these
  directories. So a walk in another tree that shows the same there goes the same way,
  turn by turn (`traversal_congr`), and a walk that fails does so at a path that it
  opened (`traversal_eq_error`).

    §1 Sight      `Kind.seen`, `Entry.outline`, `Tree.shows`, `candidates_congr`
    §2 Turns      `turn_eq_inr`, `turn_eq_inl`
    §3 Opening    `Walker.Opens`, `Walker.Grounded`, `isDirectory_of_opens`
    §4 Failing    `Tree.enter`, `traversal_eq_error`, `Refuses`, `enter_eq_error`
    §5 In step    `Walker.Alike`, `Ends.congr`, `children_congr`, `descendants_congr`
-/
import TreeSift.Proofs.Tree.Failure

namespace TreeSift

/-! ## §1 Sight -/

/-- What is seen of a kind from the directory above: not whether a directory can be
listed. -/
def Kind.seen : Kind → Kind
  | denied => directory
  | k => k

theorem Kind.isDirectory_seen (k : Kind) : k.seen.isDirectory = k.isDirectory := by
  cases k <;> rfl

theorem Kind.seen_eq_file {k : Kind} : k.seen = .file ↔ k = .file := by
  cases k <;> simp [seen]

theorem Kind.seen_eq_loop {k : Kind} : k.seen = .loop ↔ k = .loop := by
  cases k <;> simp [seen]

/-- What is seen of an entry without looking below it. -/
def Entry.outline (e : Entry) : String × String × Kind := (e.name, e.path, e.kind.seen)

/-- Entries that look the same have the same path. -/
theorem Entry.path_of_outline {e f : Entry} (same : e.outline = f.outline) : e.path = f.path :=
  congrArg (fun o => o.2.1) same

theorem Entry.loop_of_outline {e f : Entry} (same : e.outline = f.outline) :
    e.kind = .loop ↔ f.kind = .loop := by
  have kinds : e.kind.seen = f.kind.seen := congrArg (fun o => o.2.2) same
  rw [← Kind.seen_eq_loop, kinds, Kind.seen_eq_loop]

theorem Entry.isDirectory_of_outline {e f : Entry} (same : e.outline = f.outline) :
    e.kind.isDirectory = f.kind.isDirectory := by
  have kinds : e.kind.seen = f.kind.seen := congrArg (fun o => o.2.2) same
  rw [← Kind.isDirectory_seen, kinds, Kind.isDirectory_seen]

namespace Tree

/-- The names and kinds that are shown, in order, when a path is listed. -/
def shows (t : Tree) (path : String) : Except ListingError (List (String × Kind)) :=
  (fun found => found.map fun e => (e.name, e.kind.seen)) <$> t.scan path

theorem scan_eq_ok {t : Tree} {path : String} {es : List Entry} (h : t.scan path = .ok es) :
    ∃ here, t.resolve? path = some here ∧ here.kind = .directory ∧
      es = here.below.entries path := by
  cases hr : t.resolve? path with
  | none => simp [scan, locate, hr] at h
  | some here =>
    rw [scan_of_resolve? hr] at h
    exact ⟨here, rfl, list_eq_ok_iff.1 h⟩

theorem path_of_mem_entries {path : String} {f : Forest} {e : Entry} (h : e ∈ f.entries path) :
    e.path = join path e.name := by
  induction f with
  | nil => simp [Forest.entries] at h
  | place name kind below next _ ih =>
    rw [Forest.entries, List.mem_cons] at h
    cases h with
    | inl first => rw [first]
    | inr later => exact ih later

/-- What is shown tells the outlines of all entries. -/
theorem outlines_scan (t : Tree) (path : String) :
    List.map Entry.outline <$> t.scan path =
      (List.map fun shown => (shown.1, join path shown.1, shown.2)) <$> t.shows path := by
  rw [shows]
  cases hs : t.scan path with
  | error e => rfl
  | ok es =>
    obtain ⟨here, -, -, rfl⟩ := scan_eq_ok hs
    have same : (here.below.entries path).map Entry.outline =
        ((here.below.entries path).map fun e => (e.name, e.kind.seen)).map
          fun shown => (shown.1, join path shown.1, shown.2) := by
      rw [List.map_map]
      apply List.map_congr_left
      intro e he
      simp [Entry.outline, path_of_mem_entries he]
    simp [same]

end Tree

/-- Whether a kind is what a search looks for, as far as it is seen. -/
def Target.admitsKind : Target → Kind → Bool
  | file, k => k = .file
  | directory, k => k.isDirectory

theorem Target.admits_eq_seen (target : Target) (e : Entry) :
    target.admits e = target.admitsKind e.kind.seen := by
  cases target with
  | file => simp [admits, admitsKind, Kind.seen_eq_file]
  | directory => simp [admits, admitsKind, Kind.isDirectory_seen]

/-- Outlines are all that candidates are chosen by. -/
theorem candidates_eq_outlines (glob : Glob) (target : Target) (found : List Entry) :
    candidates glob target found =
      ((found.map Entry.outline).filter fun o =>
        target.admitsKind o.2.2 && glob.covers o.1).map fun o => o.2.1 := by
  rw [candidates, List.filter_map, List.map_map]
  simp only [Target.admits_eq_seen]
  rfl

theorem candidates_congr {es fs : List Entry} (same : es.map Entry.outline = fs.map Entry.outline)
    (glob : Glob) (target : Target) : candidates glob target es = candidates glob target fs := by
  rw [candidates_eq_outlines, candidates_eq_outlines, same]

theorem Tree.checkKinds_congr {es fs : List Entry}
    (same : es.map Entry.outline = fs.map Entry.outline) : checkKinds es = checkKinds fs := by
  induction es generalizing fs with
  | nil => rw [List.map_eq_nil_iff.1 same.symm]
  | cons e es ih =>
    obtain ⟨f, fs, rfl, first, rest⟩ := List.map_eq_cons_iff.1 same.symm
    simp only [checkKinds_cons, Entry.loop_of_outline first, Entry.path_of_outline first,
      ih rest.symm]

namespace Tree.Walker

variable {t u : Tree}

/-! ## §2 Turns -/

/-- A turn that does not end a walk hands out an entry or opens a path. -/
theorem turn_eq_inr {w v : Walker} (h : w.turn t = .inr v) :
    (∃ e rest, w.current = e :: rest ∧ e.kind ≠ .loop ∧
      v = ⟨w.found ++ [e], rest, if e.kind.isDirectory then e.path :: w.pile else w.pile⟩) ∨
    (∃ path pile es, w.current = [] ∧ w.pile = path :: pile ∧ t.scan path = .ok es ∧
      v = ⟨w.found, es, pile⟩) := by
  obtain ⟨found, current, pile⟩ := w
  cases current with
  | cons e rest =>
    by_cases hk : e.kind = .loop
    · simp [turn, hk] at h
    · rw [turn_handed_out hk] at h
      exact .inl ⟨e, rest, rfl, hk, (Sum.inr.inj h).symm⟩
  | nil =>
    cases pile with
    | nil => simp [turn] at h
    | cons path pile =>
      cases hs : t.scan path with
      | error e => simp [turn, hs] at h
      | ok es =>
        rw [turn_opened hs] at h
        exact .inr ⟨path, pile, es, rfl, rfl, hs, (Sum.inr.inj h).symm⟩

/-- A walk ends at an entry of unknown kind, at a path that cannot be listed, or when
nothing is left to be opened. -/
theorem turn_eq_inl {w : Walker} {r : Except ListingError (List Entry)} (h : w.turn t = .inl r) :
    (∃ e rest, w.current = e :: rest ∧ e.kind = .loop ∧ r = .error (.loop e.path)) ∨
    (∃ path pile e, w.current = [] ∧ w.pile = path :: pile ∧ t.scan path = .error e ∧
      r = .error e) ∨
    (w.current = [] ∧ w.pile = [] ∧ r = .ok w.found) := by
  obtain ⟨found, current, pile⟩ := w
  cases current with
  | cons e rest =>
    by_cases hk : e.kind = .loop
    · simp only [turn, if_pos hk, Sum.inl.injEq] at h
      exact .inl ⟨e, rest, rfl, hk, h.symm⟩
    · rw [turn_handed_out hk] at h
      simp at h
  | nil =>
    cases pile with
    | nil =>
      simp only [turn, Sum.inl.injEq] at h
      exact .inr (.inr ⟨rfl, rfl, h.symm⟩)
    | cons path pile =>
      cases hs : t.scan path with
      | error e =>
        simp only [turn, hs, Sum.inl.injEq] at h
        exact .inr (.inl ⟨path, pile, e, rfl, rfl, hs, h.symm⟩)
      | ok es =>
        rw [turn_opened hs] at h
        simp at h

/-! ## §3 Opening -/

/-- The paths that a walk opens from where it stands. -/
inductive Opens (t : Tree) : Walker → String → Prop
  | now {found : List Entry} {path : String} {pile : List String} :
      Opens t ⟨found, [], path :: pile⟩ path
  | later {w v : Walker} {path : String} (step : w.turn t = .inr v) (onward : Opens t v path) :
      Opens t w path

/-- Where all paths that are still to be opened are those of directories. -/
structure Grounded (t : Tree) (w : Walker) : Prop where
  pile : ∀ p ∈ w.pile, t.isDirectory p = true
  current : ∀ e ∈ w.current, e.kind.isDirectory = true → t.isDirectory e.path = true

/-- The entries of a listed path that are directories have paths of directories. -/
theorem isDirectory_of_scan (wf : t.WellFormed) {path : String} {es : List Entry}
    (h : t.scan path = .ok es) {e : Entry} (he : e ∈ es) (dir : e.kind.isDirectory = true) :
    t.isDirectory e.path = true := by
  obtain ⟨here, hr, hk, rfl⟩ := scan_eq_ok h
  have sub : (e.path, e.tree) ∈ directories (here.below.entries path) :=
    List.mem_map.2 ⟨e, List.mem_filter.2 ⟨he, dir⟩, rfl⟩
  have named := (resolve?_of_mem_directories hr (wf.of_resolve? hr) hk sub).1
  exact isDirectory_iff.2 ⟨e.tree, named, dir⟩

/-- **Step.** A turn leaves paths of directories only. -/
theorem Grounded.turn (wf : t.WellFormed) {w v : Walker} (h : w.Grounded t)
    (step : w.turn t = .inr v) : v.Grounded t := by
  rcases turn_eq_inr step with ⟨e, rest, hc, -, rfl⟩ | ⟨path, pile, es, -, hp, hs, rfl⟩
  · refine ⟨?_, ?_⟩
    · intro p hp
      cases dir : e.kind.isDirectory with
      | false =>
        simp [dir] at hp
        exact h.pile p hp
      | true =>
        simp [dir] at hp
        cases hp with
        | inl own => exact own ▸ h.current e (hc ▸ List.mem_cons_self) dir
        | inr before => exact h.pile p before
    · intro f hf
      exact h.current f (hc ▸ List.mem_cons_of_mem e hf)
  · refine ⟨?_, ?_⟩
    · intro p inside
      exact h.pile p (hp ▸ List.mem_cons_of_mem path inside)
    · intro e he dir
      exact isDirectory_of_scan wf hs he dir

/-- **Run.** Every path that is opened names a directory. -/
theorem Grounded.isDirectory (wf : t.WellFormed) {w : Walker} {path : String} (h : w.Grounded t)
    (opens : Opens t w path) : t.isDirectory path = true := by
  induction opens with
  | now => exact h.pile _ List.mem_cons_self
  | later step onward ih => exact ih (h.turn wf step)

/-- A walk from a directory opens directories only. -/
theorem isDirectory_of_opens (wf : t.WellFormed) {dir path : String}
    (h : t.isDirectory dir = true) (opens : Opens t (start dir) path) :
    t.isDirectory path = true := by
  have grounded : (start dir).Grounded t := ⟨by simpa [start] using h, by simp [start]⟩
  exact grounded.isDirectory wf opens

end Tree.Walker

/-! ## §4 Failing -/

namespace Tree

/-- The entries of the directory that a path names, once the kinds of all are known. -/
def enter (t : Tree) (path : String) : Except ListingError (List Entry) := do
  let found ← t.scan path
  checkKinds found
  return found

theorem children_eq_enter (t : Tree) (dir : String) (glob : Glob) (target : Target) :
    t.children dir glob target = candidates glob target <$> t.enter dir := by
  simp only [children, enter, scan, map_eq_pure_bind, bind_assoc, pure_bind]

namespace Walker

variable {t u : Tree}

/-- A walk that fails has opened a path that cannot be entered, or it stands before an
entry of unknown kind. -/
theorem Ends.error_opened {w : Walker} {r : Except ListingError (List Entry)}
    (ends : Ends t w r) {e : ListingError} (failed : r = .error e) :
    (∃ path, Opens t w path ∧ t.enter path = .error e) ∨ checkKinds w.current = .error e := by
  induction ends with
  | @last w r h =>
    subst failed
    rcases turn_eq_inl h with ⟨f, rest, hc, hk, he⟩ | ⟨path, pile, f, hc, hp, hs, he⟩ | ⟨-, -, he⟩
    · rw [hc, checkKinds_cons, if_pos hk, Except.error.inj he]
      exact .inr rfl
    · obtain ⟨found, current, pile'⟩ := w
      obtain rfl : current = [] := hc
      obtain rfl : pile' = path :: pile := hp
      obtain rfl := Except.error.inj he
      exact .inl ⟨path, .now, by rw [enter, hs]; rfl⟩
    · simp at he
  | @next w v r h later ih =>
    rcases ih failed with ⟨path, opens, closed⟩ | unknown
    · exact .inl ⟨path, .later h opens, closed⟩
    · rcases turn_eq_inr h with ⟨f, rest, hc, hk, rfl⟩ | ⟨path, pile, es, hc, hp, hs, rfl⟩
      · rw [hc, checkKinds_cons, if_neg hk]
        exact .inr unknown
      · obtain ⟨found, current, pile'⟩ := w
        obtain rfl : current = [] := hc
        obtain rfl : pile' = path :: pile := hp
        have closed : t.enter path = .error e := by
          rw [enter, hs, Fallible.ok_bind, show checkKinds es = .error e from unknown]
          rfl
        exact .inl ⟨path, .now, closed⟩

end Walker

/-- A walk that fails does so at a path that it opened. -/
theorem traversal_eq_error {t : Tree} (wf : t.WellFormed) {dir : String} {e : ListingError}
    (h : t.traversal dir = .error e) :
    ∃ path, Walker.Opens t (.start dir) path ∧ t.enter path = .error e := by
  rcases (Walker.ends_start wf dir).error_opened h with opened | unknown
  · exact opened
  · simp [Walker.start, checkKinds] at unknown

/-- Why a directory cannot be entered: it cannot be listed, or it has an entry of unknown
kind. -/
def Refuses (t : Tree) (path : String) (e : ListingError) : Prop :=
  ∃ here, t.resolve? path = some here ∧
    ((here.kind = .denied ∧ e = .denied path) ∨
      ∃ name c, here.child? name = some c ∧ c.kind = .loop ∧ e = .loop (join path name))

theorem enter_eq_error {t : Tree} (wf : t.WellFormed) {path : String}
    (dir : t.isDirectory path = true) {e : ListingError} (h : t.enter path = .error e) :
    t.Refuses path e := by
  obtain ⟨here, hr, hd⟩ := isDirectory_iff.1 dir
  rw [enter, scan_of_resolve? hr] at h
  cases hk : here.kind with
  | denied =>
    simp [list, hk] at h
    exact ⟨here, hr, .inl ⟨hk, h.symm⟩⟩
  | directory =>
    simp only [list, hk, Fallible.ok_bind, checkKinds] at h
    cases hf : (here.below.entries path).find? fun e => e.kind = .loop with
    | none => simp [hf] at h
    | some f =>
      simp [hf] at h
      have loop : f.kind = .loop := by simpa using List.find?_some hf
      have inside : f ∈ here.below.entries path := List.mem_of_find?_eq_some hf
      obtain ⟨⟨above, name, c⟩, hp, rfl⟩ :=
        List.mem_map.1 (entries_eq_map_tops path here.below ▸ inside)
      obtain rfl : above = [] := ((Forest.mem_tops (wf.of_resolve? hr) _).1 hp).1
      have child := (mem_tops_of_child? (wf.of_resolve? hr) hk).2 hp
      exact ⟨here, hr, .inr ⟨name, c, child, loop, h.symm⟩⟩
  | file => simp [hk, Kind.isDirectory] at hd
  | other => simp [hk, Kind.isDirectory] at hd
  | loop => simp [hk, Kind.isDirectory] at hd

/-! ## §5 In step -/

namespace Walker

variable {t u : Tree}

/-- Two walks that stand at the same place in what may be different trees. -/
structure Alike (w v : Walker) : Prop where
  found : w.found.map Entry.outline = v.found.map Entry.outline
  current : w.current.map Entry.outline = v.current.map Entry.outline
  pile : w.pile = v.pile

/-- A walk has one result. -/
theorem Ends.unique {w : Walker} {r s : Except ListingError (List Entry)} (first : Ends t w r)
    (second : Ends t w s) : r = s := by
  induction first with
  | last h =>
    cases second with
    | last h' => exact Sum.inl.inj (h.symm.trans h')
    | next h' => simp [h] at h'
  | next h later ih =>
    cases second with
    | last h' => simp [h] at h'
    | next h' later' =>
      obtain rfl := Sum.inr.inj (h.symm.trans h')
      exact ih later'

/-- Two trees that show the same at a path have alike entries there, or fail alike. -/
theorem scan_congr {path : String} (same : t.shows path = u.shows path) :
    (∀ e, t.scan path = .error e → u.scan path = .error e) ∧
    (∀ es, t.scan path = .ok es → ∃ fs, u.scan path = .ok fs ∧
      es.map Entry.outline = fs.map Entry.outline) := by
  have outlines := outlines_scan t path
  rw [same, ← outlines_scan u path] at outlines
  refine ⟨?_, ?_⟩
  · intro e hs
    rw [hs] at outlines
    cases hu : u.scan path with
    | error f => simpa [hu] using outlines.symm
    | ok fs => simp [hu] at outlines
  · intro es hs
    rw [hs] at outlines
    cases hu : u.scan path with
    | error f => simp [hu] at outlines
    | ok fs => exact ⟨fs, rfl, by simpa [hu] using outlines⟩

/-- **Step.** A turn leads walks that stand alike to the same end, as far as it can be
seen, or lets them stand alike again. -/
theorem Alike.turn {w v : Walker} (alike : Alike w v)
    (same : ∀ path, Opens t w path → t.shows path = u.shows path) :
    (∀ r, w.turn t = .inl r → ∃ s, v.turn u = .inl s ∧
      List.map Entry.outline <$> s = List.map Entry.outline <$> r) ∧
    (∀ w', w.turn t = .inr w' → ∃ v', v.turn u = .inr v' ∧ Alike w' v') := by
  obtain ⟨found, current, pile⟩ := w
  obtain ⟨found', current', pile'⟩ := v
  obtain ⟨sameFound, sameCurrent, samePile⟩ := alike
  obtain rfl : pile = pile' := samePile
  cases current with
  | cons e rest =>
    obtain ⟨f, rest', rfl, first, others⟩ := List.map_eq_cons_iff.1 sameCurrent.symm
    have path := Entry.path_of_outline first
    have loop := Entry.loop_of_outline first
    by_cases hk : e.kind = .loop
    · simp [Walker.turn, hk, loop.2 hk, path]
    · rw [turn_handed_out hk, turn_handed_out fun hf => hk (loop.1 hf)]
      refine ⟨by simp, ?_⟩
      intro w' hw
      obtain rfl := Sum.inr.inj hw
      refine ⟨_, rfl, ?_, others.symm, ?_⟩
      · rw [List.map_append, List.map_append, sameFound, List.map_singleton, List.map_singleton,
          first]
      · simp [Entry.isDirectory_of_outline first, path]
  | nil =>
    obtain rfl : current' = [] := by simpa using sameCurrent.symm
    cases pile with
    | nil => simpa [Walker.turn] using sameFound.symm
    | cons path pile =>
      obtain ⟨failing, succeeding⟩ := scan_congr (same path .now)
      cases hs : t.scan path with
      | error e => simp [Walker.turn, hs, failing e hs]
      | ok es =>
        obtain ⟨fs, hu, outlines⟩ := succeeding es hs
        rw [turn_opened hs, turn_opened hu]
        refine ⟨by simp, ?_⟩
        intro w' hw
        obtain rfl := Sum.inr.inj hw
        exact ⟨_, rfl, sameFound, outlines, rfl⟩

/-- **Run.** Walks that stand alike come to the same end, as far as it can be seen, if all
paths that are opened show the same in both trees. -/
theorem Ends.congr {w v : Walker} {r : Except ListingError (List Entry)} (ends : Ends t w r)
    (alike : Alike w v) (same : ∀ path, Opens t w path → t.shows path = u.shows path) :
    ∃ s, Ends u v s ∧ List.map Entry.outline <$> s = List.map Entry.outline <$> r := by
  induction ends generalizing v with
  | last h =>
    obtain ⟨s, hs, outcome⟩ := (alike.turn same).1 _ h
    exact ⟨s, .last hs, outcome⟩
  | next h later ih =>
    obtain ⟨v', hv, alike'⟩ := (alike.turn same).2 _ h
    obtain ⟨s, ends, outcome⟩ := ih alike' fun path opens => same path (.later h opens)
    exact ⟨s, .next hv ends, outcome⟩

end Walker

variable {t u : Tree}

/-- A walk in another tree comes to the same, as far as it can be seen, if all paths that
are opened show the same there. -/
theorem traversal_congr (wft : t.WellFormed) (wfu : u.WellFormed) {dir : String}
    (same : ∀ path, Walker.Opens t (.start dir) path → t.shows path = u.shows path) :
    List.map Entry.outline <$> t.traversal dir = List.map Entry.outline <$> u.traversal dir := by
  obtain ⟨s, ends, outcome⟩ :=
    (Walker.ends_start wft dir).congr ⟨rfl, rfl, rfl⟩ same
  rw [← outcome, ends.unique (Walker.ends_start wfu dir)]

theorem children_congr {dir : String} (same : t.shows dir = u.shows dir) (glob : Glob)
    (target : Target) : t.children dir glob target = u.children dir glob target := by
  rw [children_eq_enter, children_eq_enter, enter, enter]
  obtain ⟨failing, succeeding⟩ := Walker.scan_congr same
  cases hs : t.scan dir with
  | error e => rw [failing e hs]
  | ok es =>
    obtain ⟨fs, hu, outlines⟩ := succeeding es hs
    rw [hu, Fallible.ok_bind, Fallible.ok_bind, checkKinds_congr outlines]
    cases checkKinds fs with
    | error e => rfl
    | ok _ => exact congrArg Except.ok (candidates_congr outlines glob target)

theorem descendants_congr (wft : t.WellFormed) (wfu : u.WellFormed) {dir : String}
    (same : ∀ path, Walker.Opens t (.start dir) path → t.shows path = u.shows path) (glob : Glob)
    (target : Target) : t.descendants dir glob target = u.descendants dir glob target := by
  have outlines := traversal_congr wft wfu same
  rw [descendants_eq_traversal, descendants_eq_traversal]
  cases ht : t.traversal dir with
  | error e =>
    cases hu : u.traversal dir with
    | error f => simpa [ht, hu] using outlines
    | ok fs => simp [ht, hu] at outlines
  | ok es =>
    cases hu : u.traversal dir with
    | error f => simp [ht, hu] at outlines
    | ok fs =>
      simp only [ht, hu, Fallible.map_ok, Except.ok.injEq] at outlines
      exact congrArg Except.ok (candidates_congr outlines glob target)

end Tree

end TreeSift
