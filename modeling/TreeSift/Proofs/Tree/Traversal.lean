/-
  TreeSift.Proofs.Tree.Traversal — walking with a pile is walking by recursion.

  By recursion, everything below a directory are its entries and then what is
  below its subdirectories, from the last to the first. With a pile, the walk
  opens the path on top of the pile, hands out the entries one at a time and
  puts a directory on the pile once its entry has been taken. Whoever takes an
  entry asks for its kind, so the walk can end between handing out an entry and
  putting it on the pile.

  Both come to the same, entries, order and failure alike
  (`descendants_refine_recursion`). The invariant of the pile is that each of
  its paths names a well-formed place: then it stands for the recursive walks of
  these places, one after the other.

    §1 Paths      `resolve?_of_mem_directories`
    §2 Recursion  `scan`, `traversal`, `traversal_eq`
    §3 The pile   `Walker`, `Walker.Ends`, `Walker.ends_start`
    §4 Together   `descendants_refine_recursion`
-/
import TreeSift.Proofs.Tree.Survey
import TreeSift.Search.Target

namespace TreeSift.Tree

/-! ## §1 Paths -/

theorem WellFormed.of_follow {above : List Tree} {here c : Tree} {ps : List (List Char)}
    (wfAbove : ∀ a ∈ above, a.WellFormed) (wf : here.WellFormed)
    (h : follow above here ps = some c) : c.WellFormed := by
  induction ps generalizing above here with
  | nil =>
    obtain rfl := Option.some.inj h
    exact wf
  | cons p rest ih =>
    rw [follow.eq_def] at h
    dsimp only at h
    split at h
    · exact absurd h (by simp)
    · split at h
      · exact ih wfAbove wf h
      · split at h
        · cases above with
          | nil => exact ih wfAbove wf h
          | cons parent higher =>
            exact ih (fun a ha => wfAbove a (List.mem_cons_of_mem _ ha))
              (wfAbove parent List.mem_cons_self) h
        · split at h
          · exact absurd h (by simp)
          · rename_i d hd
            refine ih (fun a ha => ?_) (Forest.WellFormed.of_find? wf hd).2 h
            rcases List.mem_cons.1 ha with rfl | ha
            · exact wf
            · exact wfAbove a ha

/-- A path in a well-formed tree names a well-formed place. -/
theorem WellFormed.of_resolve? {t : Tree} (wf : t.WellFormed) {path : String} {c : Tree}
    (h : t.resolve? path = some c) : c.WellFormed := by
  unfold resolve? at h
  split at h
  · exact absurd h (by simp)
  · exact WellFormed.of_follow (by simp) wf h

/-- The path of a subdirectory names that subdirectory. -/
theorem resolve?_of_mem_directories {t here : Tree} {path : String}
    (h : t.resolve? path = some here) (wf : here.WellFormed) (hk : here.kind = .directory)
    {d : String × Tree} (hd : d ∈ directories (here.below.entries path)) :
    t.resolve? d.1 = some d.2 ∧ d.2.WellFormed := by
  simp only [directories, entries_eq_map_tops, List.mem_map, List.mem_filter] at hd
  obtain ⟨e, ⟨⟨p, hp, rfl⟩, -⟩, rfl⟩ := hd
  have hat : at? here p.names = some p.tree := by
    rw [show here = ⟨.directory, here.below⟩ by rw [← hk]]
    exact ((Forest.mem_tops wf p).1 hp).2
  obtain ⟨areNames, wfp⟩ := wf.of_at? hat
  exact ⟨resolve?_pathTo h areNames hat, wfp⟩

theorem list_eq_ok_iff {path : String} {t : Tree} {es : List Entry} :
    t.list path = .ok es ↔ t.kind = .directory ∧ es = t.below.entries path := by
  unfold list
  cases t.kind <;> simp [eq_comm]

/-- When the topmost directory of a pile has been listed and its subdirectories
have taken its place, the paths still name the places. -/
theorem named_later {t here : Tree} {path : String} {es : List Entry}
    {rest : List (String × Tree)} (hl : here.list path = .ok es)
    (named : ∀ d ∈ (path, here) :: rest, t.resolve? d.1 = some d.2 ∧ d.2.WellFormed) :
    ∀ d ∈ (directories es).reverse ++ rest, t.resolve? d.1 = some d.2 ∧ d.2.WellFormed := by
  intro d hd
  obtain ⟨h, wf⟩ := named _ List.mem_cons_self
  obtain ⟨hk, rfl⟩ := list_eq_ok_iff.1 hl
  rcases List.mem_append.1 hd with hd | hd
  · exact resolve?_of_mem_directories h wf hk (List.mem_reverse.1 hd)
  · exact named d (List.mem_cons_of_mem _ hd)

/-! ## §2 Recursion -/

/-- The entries of the directory that a path names. -/
def scan (t : Tree) (path : String) : Except ListingError (List Entry) := do
  (← t.locate path).list path

/-- The paths of the directories among some entries. -/
def subdirectories (found : List Entry) : List String := (directories found).map Prod.fst

/-- Everything below the directory that a path names, by recursion. -/
def traversal (t : Tree) (path : String) : Except ListingError (List Entry) := do
  tour (path, ← t.locate path)

theorem traversal_of_resolve? {t here : Tree} {path : String} (h : t.resolve? path = some here) :
    t.traversal path = tour (path, here) := by
  simp [traversal, locate, h]

theorem scan_of_resolve? {t here : Tree} {path : String} (h : t.resolve? path = some here) :
    t.scan path = here.list path := by
  simp [scan, locate, h]

/-- The recursion: the entries of the directory, then everything below its
subdirectories from the last to the first. -/
theorem traversal_eq {t : Tree} (wf : t.WellFormed) (path : String) :
    t.traversal path = do
      let found ← t.scan path
      checkKinds found
      return found ++ (← (subdirectories found).reverse.flatMapM t.traversal) := by
  cases h : t.resolve? path with
  | none => simp [traversal, scan, locate, h]
  | some here =>
    rw [traversal_of_resolve? h, tour_eq, scan_of_resolve? h]
    cases hl : here.list path with
    | error e => rfl
    | ok found =>
      obtain ⟨hk, rfl⟩ := list_eq_ok_iff.1 hl
      have same : (directories (here.below.entries path)).reverse.flatMapM tour =
          (subdirectories (here.below.entries path)).reverse.flatMapM t.traversal := by
        rw [subdirectories, ← List.map_reverse]
        refine Fallible.flatMapM_map Prod.fst fun d hd => ?_
        have named := resolve?_of_mem_directories h (wf.of_resolve? h) hk (List.mem_reverse.1 hd)
        exact (traversal_of_resolve? named.1).symm
      rw [Fallible.ok_bind, Fallible.ok_bind, same]

/-! ## §3 The pile -/

theorem checkKinds_cons (e : Entry) (es : List Entry) :
    checkKinds (e :: es) = if e.kind = .loop then .error (.loop e.path) else checkKinds es := by
  unfold checkKinds
  by_cases hk : e.kind = .loop <;> simp [hk]

/-- Where a walk with a pile of paths stands. -/
structure Walker where
  /-- The entries that have been handed out. -/
  found : List Entry
  /-- The entries of the current directory that are still to be handed out. -/
  current : List Entry
  /-- The paths that are still to be opened, the next one first. -/
  pile : List String

namespace Walker

/-- A walk before its first turn. -/
def start (path : String) : Walker := ⟨[], [], [path]⟩

/-- One turn of a walk: it ends, or stands somewhere else afterwards. -/
def turn (t : Tree) : Walker → Except ListingError (List Entry) ⊕ Walker
  | ⟨found, e :: rest, pile⟩ =>
    if e.kind = .loop then .inl (.error (.loop e.path))
    else .inr ⟨found ++ [e], rest, if e.kind.isDirectory then e.path :: pile else pile⟩
  | ⟨found, [], path :: pile⟩ =>
    match t.scan path with
    | .error e => .inl (.error e)
    | .ok es => .inr ⟨found, es, pile⟩
  | ⟨found, [], []⟩ => .inl (.ok found)

/-- After finitely many turns a walk ends with a result. -/
inductive Ends (t : Tree) : Walker → Except ListingError (List Entry) → Prop
  | last {w : Walker} {r : Except ListingError (List Entry)} (h : w.turn t = .inl r) : Ends t w r
  | next {w v : Walker} {r : Except ListingError (List Entry)} (h : w.turn t = .inr v)
      (later : Ends t v r) : Ends t w r

variable {t : Tree}

theorem turn_handed_out {e : Entry} {es found : List Entry} {pile : List String}
    (known : e.kind ≠ .loop) :
    turn t ⟨found, e :: es, pile⟩ =
      .inr ⟨found ++ [e], es, if e.kind.isDirectory then e.path :: pile else pile⟩ := by
  simp [turn, known]

theorem turn_opened {path : String} {es found : List Entry} {pile : List String}
    (h : t.scan path = .ok es) :
    turn t ⟨found, [], path :: pile⟩ = .inr ⟨found, es, pile⟩ := by
  simp [turn, h]

/-- Entries of known kinds are all handed out, and the directories among them
come to lie on the pile, the last one on top. -/
theorem Ends.of_handed_out {es found : List Entry} {pile : List String}
    {r : Except ListingError (List Entry)} (known : checkKinds es = .ok ())
    (h : Ends t ⟨found ++ es, [], (subdirectories es).reverse ++ pile⟩ r) :
    Ends t ⟨found, es, pile⟩ r := by
  induction es generalizing found pile with
  | nil => simpa [subdirectories, directories] using h
  | cons e es ih =>
    rw [checkKinds_cons] at known
    split at known
    · exact absurd known (by simp)
    · rename_i hk
      refine .next (turn_handed_out hk) (ih known ?_)
      rw [List.append_assoc, List.singleton_append]
      cases hd : e.kind.isDirectory with
      | false => simpa [subdirectories, directories, hd] using h
      | true => simpa [subdirectories, directories, hd] using h

/-- An entry of unknown kind ends the walk, before any directory is opened. -/
theorem Ends.of_unknown {es found : List Entry} {pile : List String} {err : ListingError}
    (unknown : checkKinds es = .error err) : Ends t ⟨found, es, pile⟩ (.error err) := by
  induction es generalizing found pile with
  | nil => exact absurd unknown (by simp [checkKinds])
  | cons e es ih =>
    rw [checkKinds_cons] at unknown
    split at unknown
    · rename_i hk
      obtain rfl := Except.error.inj unknown
      exact .last (by simp [turn, hk])
    · rename_i hk
      exact .next (turn_handed_out hk) (ih unknown)

/-- A walk from a pile on adds what the pile stands for. -/
theorem ends_pile (pile : List (String × Tree))
    (named : ∀ d ∈ pile, t.resolve? d.1 = some d.2 ∧ d.2.WellFormed) (found : List Entry) :
    Ends t ⟨found, [], pile.map Prod.fst⟩ ((found ++ ·) <$> walkPile pile) := by
  fun_induction walkPile pile generalizing found with
  | case1 => exact .last (by simp [turn])
  | case2 path c rest e hl =>
    have scanned := scan_of_resolve? (named _ List.mem_cons_self).1
    exact .last (by simp [turn, scanned, hl])
  | case3 path c rest es hl e hc =>
    have scanned := scan_of_resolve? (named _ List.mem_cons_self).1
    exact .next (turn_opened (scanned.trans hl)) (.of_unknown hc)
  | case4 path c rest es hl hc e hw ih =>
    have scanned := scan_of_resolve? (named _ List.mem_cons_self).1
    have rest := ih (named_later hl named) (found ++ es)
    rw [hw, List.map_append, List.map_reverse] at rest
    exact .next (turn_opened (scanned.trans hl)) (.of_handed_out hc rest)
  | case5 path c rest es hl hc more hw ih =>
    have scanned := scan_of_resolve? (named _ List.mem_cons_self).1
    have rest := ih (named_later hl named) (found ++ es)
    rw [hw, List.map_append, List.map_reverse, Fallible.map_ok, List.append_assoc] at rest
    exact .next (turn_opened (scanned.trans hl)) (.of_handed_out hc rest)

/-- The walk ends, with what the recursion leads to. -/
theorem ends_start (wf : t.WellFormed) (path : String) :
    Ends t (start path) (t.traversal path) := by
  cases h : t.resolve? path with
  | none =>
    have missing : t.scan path = .error (.notFound path) := by simp [scan, locate, h]
    have result : t.traversal path = .error (.notFound path) := by simp [traversal, locate, h]
    rw [result]
    exact .last (by simp [start, turn, missing])
  | some here =>
    have ends := ends_pile [(path, here)] (by simpa using ⟨h, wf.of_resolve? h⟩) []
    simpa [start, walkPile_eq_flatMapM, traversal_of_resolve? h] using ends

end Walker

/-! ## §4 Together -/

/-- The entries below a directory are its places with paths put in. -/
theorem traversal_eq_ok {t : Tree} {path : String} {found : List Entry}
    (h : t.traversal path = .ok found) :
    ∃ here ps, t.resolve? path = some here ∧ here.survey = .ok ps ∧
      found = ps.map (Place.entry path) := by
  cases hr : t.resolve? path with
  | none => exact absurd h (by simp [traversal, locate, hr])
  | some here =>
    rw [traversal_of_resolve? hr, tour] at h
    cases hs : here.survey with
    | error o => exact absurd h (by simp [hs, located])
    | ok ps =>
      rw [hs] at h
      exact ⟨here, ps, rfl, hs, (Except.ok.inj h).symm⟩

/-- No two entries of a survey have the same path. -/
theorem nodup_paths {here : Tree} (wf : here.WellFormed) {ps : List Place}
    (h : here.survey = .ok ps) (path : String) :
    ((ps.map (Place.entry path)).map Entry.path).Nodup := by
  have apart := nodup_survey wf h
  rw [List.Nodup, List.pairwise_map] at apart
  rw [List.map_map, List.Nodup, List.pairwise_map]
  refine apart.imp_of_mem fun {p q} hp hq hne heq => hne ?_
  have hp := (wf.of_at? ((mem_survey wf h p).1 hp)).1
  have hq := (wf.of_at? ((mem_survey wf h q).1 hq)).1
  exact pathTo_injective hp hq p.names_ne_nil q.names_ne_nil heq

/-- **The walk with a pile is the walk by recursion.** Everything below a directory
are its entries and then everything below its subdirectories, the last one
first; an entry of unknown kind fails before any of them is opened. The walk with
a pile ends, and what it leads to is exactly this, failures included; candidates
are what is left of it. If it does not fail, every place below the directory is
there once, and the directory itself is not. -/
theorem descendants_refine_recursion {t : Tree} (wf : t.WellFormed) :
    (∀ path, t.traversal path = do
      let found ← t.scan path
      checkKinds found
      return found ++ (← (subdirectories found).reverse.flatMapM t.traversal)) ∧
    (∀ path, Walker.Ends t (.start path) (t.traversal path)) ∧
    (∀ path glob target,
      t.descendants path glob target = candidates glob target <$> t.traversal path) ∧
    (∀ path found, t.traversal path = .ok found → ∃ here, t.resolve? path = some here ∧
      (∀ e, e ∈ found ↔ ∃ p : Place, here.at? p.names = some p.tree ∧ e = p.entry path) ∧
      (found.map Entry.path).Nodup ∧ path ∉ found.map Entry.path) := by
  refine ⟨traversal_eq wf, Walker.ends_start wf, fun path glob target => ?_,
    fun path found h => ?_⟩
  · simp only [descendants, traversal, walk_eq_located, tour, map_eq_pure_bind, bind_assoc]
  · obtain ⟨here, ps, hr, hs, rfl⟩ := traversal_eq_ok h
    have wfHere := wf.of_resolve? hr
    refine ⟨here, hr, fun e => ?_, nodup_paths wfHere hs path, fun hmem => ?_⟩
    · simp only [List.mem_map, mem_survey wfHere hs, eq_comm]
    · obtain ⟨e, he, heq⟩ := List.mem_map.1 hmem
      obtain ⟨p, hp, rfl⟩ := List.mem_map.1 he
      exact pathTo_ne p.names_ne_nil (wfHere.of_at? ((mem_survey wfHere hs p).1 hp)).1 heq

/-- Of two subdirectories that both fail, the last one is met. -/
theorem descendants_fail_in_last :
    (ofPlaces [("/r/a", .denied), ("/r/b/l", .loop)]).WellFormed ∧
    (ofPlaces [("/r/a", .denied), ("/r/b/l", .loop)]).descendants "/r" [.run] .file =
      .error (.loop "/r/b/l") := by
  have wf : (ofPlaces [("/r/a", .denied), ("/r/b/l", .loop)]).WellFormed := by decide
  refine ⟨wf, ?_⟩
  rw [(descendants_refine_recursion wf).2.2.1]
  rfl

end TreeSift.Tree
