/-
  TreeSift.Proofs.Search.Wildcard — what a wildcard search finds.

  A search that succeeds has found the entries whose names can be cut into
  blocks, one for each piece of the pattern, and nothing else, up to case
  (`search_wildcard_keys`). The proof follows the recursion over segments: what
  is found from a directory on is gathered there (`explore_gathers`), and a block
  that leads to a directory is put before the blocks that are found from there
  (`reached_compose`).

    §1 Places    `Reached`
    §2 One step  `reached_compose`, `collect_gathers`
    §3 All steps `explore_gathers`, `resolve_gathers`
    §4 Searches  `search_wildcard_keys`
-/
import TreeSift.Proofs.Glob
import TreeSift.Proofs.PathSet.Gathering
import TreeSift.Proofs.Search.Blocks
import TreeSift.Proofs.Search.Candidates
import TreeSift.Proofs.Search.Explore

namespace TreeSift.Wildcard

open Tree (pathTo)

/-! ## §1 Places -/

/-- A path of an entry of the wanted kind below a directory, whose names can be
cut into blocks for some pieces of a pattern. -/
def Reached (here : Tree) (dir : String) (target : Target) (pieces : List String)
    (path : String) : Prop :=
  ∃ q : Tree.Place, here.at? q.names = some q.tree ∧ target.wants q.tree = true ∧
    Fits target pieces q.names ∧ path = pathTo dir q.names

/-! ## §2 One step -/

/-- What is gathered from several directories. -/
theorem collect_gathers (sort : String → String → Prop)
    {find : String → Except ListingError PathSet} {dirs : List String} {s : PathSet}
    (each : ∀ d ∈ dirs, ∀ u, find d = .ok u → u.Gathers (sort d)) (h : collect dirs find = .ok s) :
    s.Gathers fun p => ∃ d ∈ dirs, sort d p := by
  suffices added : ∀ (r : PathSet) (P : String → Prop), r.Gathers P →
      dirs.foldlM (fun found dir => do return found.insertAll (← find dir).toList) r = .ok s →
      s.Gathers fun p => P p ∨ ∃ d ∈ dirs, sort d p from
    (added _ _ PathSet.gathers_empty h).congr fun p => by simp
  clear h
  induction dirs with
  | nil =>
    intro r P hr h
    obtain rfl := Except.ok.inj h
    exact hr.congr fun p => by simp
  | cons d dirs ih =>
    intro r P hr h
    rw [List.foldlM_cons] at h
    obtain ⟨next, hn, hrest⟩ := Fallible.bind_eq_ok.1 h
    obtain ⟨u, hu, hnext⟩ := Fallible.bind_eq_ok.1 hn
    obtain rfl := Except.ok.inj hnext
    have both := hr.insertAll (each d List.mem_cons_self u hu)
    have rest := ih (fun d' hd => each d' (List.mem_cons_of_mem _ hd)) _ _ both hrest
    exact rest.congr fun p => by simp [or_assoc]

/-- A block that leads to directories, put before what is reached from these. -/
theorem reached_compose {here : Tree} {dir : String} {target : Target} {qs : List Tree.Place}
    {block : List String → Prop} {pieces rest : List String} (ne : rest ≠ [])
    (steps : ∀ q, q ∈ qs ↔ here.at? q.names = some q.tree ∧
      Target.directory.wants q.tree = true ∧ block q.names)
    (some : ∀ names, block names → names ≠ [])
    (fits : ∀ names, Fits target pieces names ↔
      ∃ first more, names = first ++ more ∧ block first ∧ Fits target rest more) (path : String) :
    (∃ q ∈ qs, Reached q.tree (pathTo dir q.names) target rest path) ↔
      Reached here dir target pieces path := by
  constructor
  · rintro ⟨q, hq, p, hat, hwants, hfits, rfl⟩
    obtain ⟨hq, -, hblock⟩ := (steps q).1 hq
    have names : (⟨q.names ++ p.above, p.name, p.tree⟩ : Tree.Place).names = q.names ++ p.names :=
      List.append_assoc ..
    refine ⟨⟨q.names ++ p.above, p.name, p.tree⟩, ?_, hwants, ?_, ?_⟩
    · rw [names, Tree.at?_append, hq]
      exact hat
    · rw [names, fits]
      exact ⟨_, _, rfl, hblock, hfits⟩
    · rw [names, Tree.pathTo_append]
  · rintro ⟨p, hat, hwants, hfits, rfl⟩
    obtain ⟨first, more, hnames, hblock, hmore⟩ := (fits p.names).1 hfits
    rw [hnames, Tree.at?_append, Option.bind_eq_some_iff] at hat
    obtain ⟨c, hc, hat⟩ := hat
    obtain ⟨q, rfl, rfl⟩ := Tree.Place.exists_of_names (some first hblock) c
    obtain ⟨r, rfl, hr⟩ := Tree.Place.exists_of_names (hmore.names_ne_nil ne) p.tree
    have directory : q.tree.kind.isDirectory = true := by
      by_contra no
      rw [Tree.at?_of_not_directory (by simpa using no)] at hat
      exact absurd hat (by simp)
    refine ⟨q, (steps q).2 ⟨hc, directory, hblock⟩, r, by rw [hat, hr], hr ▸ hwants, hmore, ?_⟩
    rw [hnames, Tree.pathTo_append]

/-! ## §3 All steps -/

/-- The places whose names fit are gathered from their paths. -/
theorem gathers_places {here : Tree} {dir : String} {target : Target} {pieces : List String}
    {qs : List Tree.Place} {described : Tree.Place → Prop}
    (found : ∀ q, q ∈ qs ↔ here.at? q.names = some q.tree ∧ target.wants q.tree = true ∧
      described q)
    (fits : ∀ q : Tree.Place, described q ↔ Fits target pieces q.names) :
    (PathSet.ofList (qs.map fun q => pathTo dir q.names)).Gathers
      (Reached here dir target pieces) := by
  refine (PathSet.gathers_ofList _).congr fun path => ?_
  simp only [List.mem_map, found, fits, Reached, and_assoc, eq_comm]

/-- A single name that a glob describes, as the names of a place. -/
theorem single_name_iff {glob : Glob} {q : Tree.Place} :
    (∃ name, q.names = [name] ∧ glob.covers name = true) ↔
      q.above = [] ∧ glob.covers q.name = true := by
  constructor
  · rintro ⟨name, hq, covered⟩
    obtain ⟨above, last⟩ := List.append_inj' (show q.above ++ [q.name] = [] ++ [name] from hq) rfl
    exact ⟨above, by rw [List.singleton_inj.1 last]; exact covered⟩
  · rintro ⟨above, covered⟩
    exact ⟨q.name, by rw [Tree.Place.names, above, List.nil_append], covered⟩

/-- Names of which the last one is described by a glob, as the names of a place. -/
theorem last_name_iff {glob : Glob} {q : Tree.Place} :
    (∃ above name, q.names = above ++ [name] ∧ glob.covers name = true) ↔
      glob.covers q.name = true := by
  constructor
  · rintro ⟨above, name, hq, covered⟩
    obtain ⟨-, last⟩ := List.append_inj' (show q.above ++ [q.name] = above ++ [name] from hq) rfl
    rw [List.singleton_inj.1 last]
    exact covered
  · exact fun covered => ⟨q.above, q.name, rfl, covered⟩

/-- What the last segment leads to. -/
theorem resolveLast_gathers {t here : Tree} {target : Target} {segment dir : String}
    (h : t.resolve? dir = some here) (wf : here.WellFormed) {found : List String}
    (hf : resolveLast t segment target dir = .ok found) :
    (PathSet.ofList found).Gathers (Reached here dir target [segment]) := by
  unfold resolveLast at hf
  cases target with
  | file =>
    obtain ⟨qs, rfl, hqs⟩ := Tree.children_eq_ok h wf hf
    refine gathers_places hqs fun q => ?_
    rw [← single_name_iff]
    cases hm : isMultiLevel segment with
    | false => rw [fits_last_iff hm]
    | true => simp [fits_file_iff hm, covers_of_isMultiLevel hm]
  | directory =>
    dsimp only at hf
    split at hf
    · rename_i hm
      obtain ⟨qs, rfl, hqs⟩ := Tree.descendants_eq_ok h wf hf
      refine gathers_places hqs fun q => ?_
      simp [fits_directories_iff hm, q.names_ne_nil, covers_everyName]
    · rename_i hm
      obtain ⟨qs, rfl, hqs⟩ := Tree.children_eq_ok h wf hf
      refine gathers_places hqs fun q => ?_
      rw [← single_name_iff, fits_last_iff (by simpa using hm)]

/-- A marker and the segment after it take names of which the last one is described. -/
theorem fits_deep_iff {target : Target} {marker next : String} {pieces names : List String}
    (hm : isMultiLevel marker = true) (hn : isMultiLevel next = false) :
    Fits target (marker :: next :: pieces) names ↔
      ∃ first more, names = first ++ more ∧
        (∃ above name, first = above ++ [name] ∧ (Glob.ofText next).covers name = true) ∧
        Fits target pieces more := by
  rw [fits_skip_iff hm hn]
  simp only [fits_name_iff hn]
  constructor
  · rintro ⟨skipped, rest, rfl, name, more, rfl, covered, hmore⟩
    exact ⟨skipped ++ [name], more, by simp, ⟨skipped, name, rfl, covered⟩, hmore⟩
  · rintro ⟨first, more, rfl, ⟨above, name, rfl, covered⟩, hmore⟩
    exact ⟨above, name :: more, by simp, name, more, rfl, covered, hmore⟩

/-- Directories that are found, with what is reached from each. -/
theorem collect_reached {t here : Tree} {dir : String} {target : Target} {rest pieces : List String}
    {qs : List Tree.Place} (block : List String → Prop) (h : t.resolve? dir = some here)
    (wf : here.WellFormed) (ne : rest ≠ [])
    (steps : ∀ q, q ∈ qs ↔ here.at? q.names = some q.tree ∧
      Target.directory.wants q.tree = true ∧ block q.names)
    (some : ∀ names, block names → names ≠ [])
    (fits : ∀ names, Fits target pieces names ↔
      ∃ first more, names = first ++ more ∧ block first ∧ Fits target rest more)
    {find : String → Except ListingError PathSet}
    (each : ∀ d c, t.resolve? d = .some c → c.WellFormed → ∀ u, find d = .ok u →
      u.Gathers (Reached c d target rest))
    {s : PathSet} (hs : collect (qs.map fun q => pathTo dir q.names) find = .ok s) :
    s.Gathers (Reached here dir target pieces) := by
  have named : ∀ q ∈ qs, t.resolve? (pathTo dir q.names) = .some q.tree ∧ q.tree.WellFormed := by
    intro q hq
    have hat := ((steps q).1 hq).1
    exact ⟨Tree.resolve?_pathTo h (wf.of_at? hat).1 hat, (wf.of_at? hat).2⟩
  have gathered := collect_gathers
    (fun d p => ∃ c, t.resolve? d = .some c ∧ Reached c d target rest p)
    (fun d hd u hu => by
      obtain ⟨q, hq, rfl⟩ := List.mem_map.1 hd
      refine (each _ _ (named q hq).1 (named q hq).2 u hu).congr fun p => ?_
      simp [(named q hq).1]) hs
  refine gathered.congr fun p => ?_
  rw [← reached_compose ne steps some fits]
  constructor
  · rintro ⟨d, hd, c, hc, hp⟩
    obtain ⟨q, hq, rfl⟩ := List.mem_map.1 hd
    rw [(named q hq).1] at hc
    obtain rfl := Option.some.inj hc
    exact ⟨q, hq, hp⟩
  · rintro ⟨q, hq, hp⟩
    exact ⟨_, List.mem_map_of_mem hq, _, (named q hq).1, hp⟩

/-- What is found from a directory on, segment by segment, is gathered there. -/
theorem explore_gathers {t : Tree} {target : Target} {segments : List String}
    (apart : segments.IsChain Apart) {dir : String} {here : Tree} (h : t.resolve? dir = some here)
    (wf : here.WellFormed) {s : PathSet} (hs : explore t target segments dir = .ok s) :
    s.Gathers (Reached here dir target segments) := by
  fun_induction explore t target segments dir generalizing here s with
  | case1 dir =>
    obtain rfl := Except.ok.inj hs
    refine PathSet.gathers_empty.congr fun p => ⟨False.elim, ?_⟩
    rintro ⟨q, -, -, hfits, -⟩
    exact q.names_ne_nil (fits_nil_iff.1 hfits)
  | case2 segment dir =>
    obtain ⟨found, hf, hs⟩ := Fallible.bind_eq_ok.1 hs
    obtain rfl := Except.ok.inj hs
    exact resolveLast_gathers h wf hf
  | case3 segment next dir marker =>
    obtain ⟨found, hf, hs⟩ := Fallible.bind_eq_ok.1 hs
    obtain rfl := Except.ok.inj hs
    obtain ⟨qs, rfl, hqs⟩ := Tree.descendants_eq_ok h wf hf
    have ordinary := (List.isChain_cons_cons.1 apart).1.of_marker marker
    refine gathers_places hqs fun q => ?_
    rw [← last_name_iff, fits_deep_iff marker ordinary]
    simp [fits_nil_iff]
  | case4 segment next rest dir marker more ih =>
    obtain ⟨dirs, hd, hs⟩ := Fallible.bind_eq_ok.1 hs
    obtain ⟨qs, rfl, hqs⟩ := Tree.descendants_eq_ok h wf hd
    have ⟨hsn, apartNext⟩ := List.isChain_cons_cons.1 apart
    refine collect_reached
      (fun names => ∃ above name, names = above ++ [name] ∧ (Glob.ofText next).covers name = true)
      h wf more (fun q => by rw [hqs, ← last_name_iff]) ?_
      (fun names => fits_deep_iff marker (hsn.of_marker marker))
      (fun d c hc wfc u hu => ih d apartNext.of_cons hc wfc hu) hs
    rintro names ⟨above, name, rfl, -⟩
    simp
  | case5 segment next rest dir marker ih =>
    obtain ⟨dirs, hd, hs⟩ := Fallible.bind_eq_ok.1 hs
    obtain ⟨qs, rfl, hqs⟩ := Tree.children_eq_ok h wf hd
    have apartNext := (List.isChain_cons_cons.1 apart).2
    refine collect_reached
      (fun names => ∃ name, names = [name] ∧ (Glob.ofText segment).covers name = true)
      h wf (List.cons_ne_nil next rest) (fun q => by rw [hqs, ← single_name_iff]) ?_ (fun names => ?_)
      (fun d c hc wfc u hu => ih d apartNext hc wfc hu) hs
    · rintro names ⟨name, rfl, -⟩
      simp
    · rw [fits_name_iff (by simpa using marker)]
      constructor
      · rintro ⟨name, more, rfl, covered, hmore⟩
        exact ⟨[name], more, rfl, ⟨name, rfl, covered⟩, hmore⟩
      · rintro ⟨first, more, rfl, ⟨name, rfl, covered⟩, hmore⟩
        exact ⟨name, more, rfl, covered, hmore⟩

/-- From an index on, the same is gathered for the segments that are left. -/
theorem resolve_gathers {t here : Tree} {target : Target} {segments : List String}
    (apart : segments.IsChain Apart) {start : Nat} {dir : String}
    (h : t.resolve? dir = some here) (wf : here.WellFormed) {s : PathSet}
    (hs : resolve t segments target start dir = .ok s) :
    s.Gathers (Reached here dir target (segments.drop start)) := by
  rw [resolve_eq_explore] at hs
  exact explore_gathers (apart.drop start) h wf hs

/-! ## §4 Searches -/

/-- **What a wildcard search finds.** A search below a directory that succeeds has
the keys of all entries of the wanted kind below it whose names can be cut into
blocks for the pieces of the pattern, and no others. Its members are paths of
such entries, no two with the same key. A pattern without pieces finds nothing. -/
theorem search_wildcard_keys {t : Tree} (wf : t.WellFormed) {root : String}
    (valid : checkRoot t (.path root) = .ok root) (pattern : String) (target : Target) :
    ∃ here, t.resolve? root = some here ∧
      (∀ f, search t .wildcard (.of root pattern target) = .ok f →
        (∀ key, key ∈ f.paths.toList.map pathKey ↔
          ∃ path, Reached here root target (Pattern.rawSegments pattern) path ∧
            pathKey path = key) ∧
        (∀ path ∈ f.paths.toList, Reached here root target (Pattern.rawSegments pattern) path) ∧
        (f.paths.toList.map pathKey).Nodup) ∧
      (Pattern.rawSegments pattern = [] →
        ∃ f, search t .wildcard (.of root pattern target) = .ok f ∧ f.paths.toList = []) := by
  obtain ⟨-, here, hres, -⟩ := checkRoot_eq_ok valid
  refine ⟨here, hres, fun f hf => ?_, fun none => ?_⟩
  · obtain ⟨there, hthere, -, hp⟩ := search_eq_ok hf
    rw [hres] at hthere
    obtain rfl := Option.some.inj hthere
    have found := Fallible.mapError_eq_ok.1 hp
    have gathered := resolve_gathers (isChain_collapse _) hres (wf.of_resolve? hres) found
    have gathered := gathered.congr fun path => by
      simp only [Reached, List.drop_zero, fits_collapse]
      exact Iff.rfl
    rw [← PathSet.keys_eq]
    exact ⟨gathered.mem_keys, gathered.sound, f.paths.keys_nodup⟩
  · have nothing : Inquiry.paths t ⟨root, pattern, target⟩ .wildcard = .ok .empty := by
      simp only [Inquiry.paths, Pattern.segments, none]
      exact congrArg (Except.mapError Failure.listing) (resolve_of_length_le (Nat.le_refl 0))
    refine ⟨⟨⟨root, pattern, target⟩, .empty⟩, ?_, rfl⟩
    rw [search_of, valid, Fallible.ok_bind, nothing, Fallible.ok_bind, Fallible.pure_eq_ok]

/-- A tree in which overlapping markers find entries in more than one way. -/
def nestedAlike : Tree := .ofPlaces [("/r/a/a/x", .file), ("/r/a/X", .file)]

/-- Overlapping markers, names in either case and a root spelled with a dot. -/
theorem search_overlapping_markers :
    nestedAlike.WellFormed ∧ checkRoot nestedAlike (.path "/r/.") = .ok "/r/." ∧
    ∃ here, nestedAlike.resolve? "/r/." = some here ∧
      ∀ key, key ∈ ["/r/./a/x", "/r/./a/a/x"] ↔
        ∃ path, Reached here "/r/." .file (Pattern.rawSegments "**/A/**/ ** /x*") path ∧
          pathKey path = key := by
  have wf : nestedAlike.WellFormed := by decide
  have valid : checkRoot nestedAlike (.path "/r/.") = .ok "/r/." := by decide
  obtain ⟨here, hres, meaning, -⟩ :=
    search_wildcard_keys wf valid "**/A/**/ ** /x*" .file
  have found : ((search nestedAlike .wildcard (.of "/r/." "**/A/**/ ** /x*" .file)).toOption.map
      fun f => f.paths.toList.map pathKey) = some ["/r/./a/x", "/r/./a/a/x"] := by
    decide +kernel
  refine ⟨wf, valid, here, hres, ?_⟩
  cases hf : search nestedAlike .wildcard (.of "/r/." "**/A/**/ ** /x*" .file) with
  | error e => exact absurd (hf ▸ found) (by simp [Except.toOption])
  | ok f =>
    rw [hf] at found
    rw [← Option.some.inj found]
    exact (meaning f hf).1

end TreeSift.Wildcard
