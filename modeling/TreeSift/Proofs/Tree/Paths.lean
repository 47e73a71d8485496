/-
  TreeSift.Proofs.Tree.Paths — the paths of the places below a directory.

  A place below a directory is given by the names that lead to it, and its path
  is the path of the directory with these names joined on, one at a time. In a
  well-formed tree that path names the same place again, however the path of
  the directory is spelled (`resolve?_pathTo`), and other names give another
  path (`pathTo_injective`).

    §1 Places   `Tree.child?`, `Tree.at?`
    §2 Joining  `stem`, `pathTo`
    §3 Back     `resolve?_join`, `resolve?_pathTo`
-/
import TreeSift.Proofs.Tree.WellFormed
import TreeSift.Tree.Resolve

namespace TreeSift.Tree

/-! ## §1 Places -/

/-- The place of a name in a directory. -/
def child? (t : Tree) (name : String) : Option Tree :=
  if t.kind.isDirectory then t.below.find? name else none

/-- The place that names lead to; all places on the way have to be directories. -/
def at? (t : Tree) : List String → Option Tree
  | [] => some t
  | name :: rest => (t.child? name).bind fun c => c.at? rest

@[simp] theorem at?_nil (t : Tree) : t.at? [] = some t := rfl

theorem at?_cons (t : Tree) (name : String) (rest : List String) :
    t.at? (name :: rest) = (t.child? name).bind fun c => c.at? rest := rfl

theorem at?_append (t : Tree) (names more : List String) :
    t.at? (names ++ more) = (t.at? names).bind fun c => c.at? more := by
  induction names generalizing t with
  | nil => rfl
  | cons name rest ih =>
    rw [List.cons_append, at?_cons, at?_cons]
    cases t.child? name with
    | none => rfl
    | some c => exact ih c

theorem WellFormed.of_child? {t : Tree} (wf : t.WellFormed) {name : String} {c : Tree}
    (h : t.child? name = some c) : IsName name ∧ c.WellFormed := by
  unfold child? at h
  split at h
  · exact Forest.WellFormed.of_find? wf h
  · exact absurd h (by simp)

/-- Names that lead somewhere in a well-formed tree are proper ones, and what
they lead to is well-formed. -/
theorem WellFormed.of_at? {t : Tree} (wf : t.WellFormed) {names : List String} {c : Tree}
    (h : t.at? names = some c) : (∀ n ∈ names, IsName n) ∧ c.WellFormed := by
  induction names generalizing t with
  | nil =>
    obtain rfl := Option.some.inj h
    exact ⟨by simp, wf⟩
  | cons name rest ih =>
    rw [at?_cons, Option.bind_eq_some_iff] at h
    obtain ⟨d, hd, hc⟩ := h
    obtain ⟨isName, wfd⟩ := wf.of_child? hd
    obtain ⟨areNames, wfc⟩ := ih wfd hc
    refine ⟨fun n hn => ?_, wfc⟩
    rcases List.mem_cons.1 hn with rfl | hn
    · exact isName
    · exact areNames n hn

/-! ## §2 Joining -/

/-- A path with a slash at its end, to which names can be appended. -/
def stem (path : String) : String := if path.toList.getLast? = some '/' then path else path ++ "/"

theorem join_eq (path name : String) : join path name = stem path ++ name := by
  unfold join stem
  split <;> rfl

/-- The path of the place that names lead to from the place of a path. -/
def pathTo (path : String) (names : List String) : String := names.foldl join path

@[simp] theorem pathTo_nil (path : String) : pathTo path [] = path := rfl

theorem pathTo_cons (path name : String) (rest : List String) :
    pathTo path (name :: rest) = pathTo (join path name) rest := rfl

theorem pathTo_append (path : String) (names more : List String) :
    pathTo path (names ++ more) = pathTo (pathTo path names) more :=
  List.foldl_append

/-- The names joined by slashes. -/
def relativeText (names : List String) : List Char := Text.joined '/' (names.map String.toList)

/-- A path that ends with a name does not end with a slash. -/
theorem getLast?_join {path name : String} (h : IsName name) :
    (join path name).toList.getLast? ≠ some '/' := by
  have some : name.toList ≠ [] := fun hn => h.ne_empty (String.toList_eq_nil_iff.1 hn)
  rw [join_eq, String.toList_append, List.getLast?_append]
  cases hl : name.toList.getLast? with
  | none => exact absurd (List.getLast?_eq_none_iff.1 hl) some
  | some c =>
    simp only [Option.some_or, ne_eq, Option.some.injEq]
    rintro rfl
    exact h.no_slash (List.mem_of_getLast? hl)

/-- A path below a directory is the path of the directory, a slash unless it
ends with one, and the names joined by slashes. -/
theorem toList_pathTo {path : String} {names : List String} (ne : names ≠ [])
    (h : ∀ n ∈ names, IsName n) :
    (pathTo path names).toList = (stem path).toList ++ relativeText names := by
  induction names generalizing path with
  | nil => exact absurd rfl ne
  | cons name rest ih =>
    have isName : IsName name := h name List.mem_cons_self
    cases rest with
    | nil =>
      rw [pathTo_cons, pathTo_nil, join_eq, String.toList_append]
      rfl
    | cons next more =>
      rw [pathTo_cons, ih (by simp) fun n hn => h n (List.mem_cons_of_mem _ hn), stem,
        if_neg (getLast?_join isName), join_eq]
      simp [relativeText, Text.joined]

/-- Different names lead to different paths. -/
theorem pathTo_injective {path : String} {ns ms : List String} (hns : ∀ n ∈ ns, IsName n)
    (hms : ∀ n ∈ ms, IsName n) (ns_ne : ns ≠ []) (ms_ne : ms ≠ [])
    (h : pathTo path ns = pathTo path ms) : ns = ms := by
  have texts : relativeText ns = relativeText ms := by
    have := congrArg String.toList h
    rw [toList_pathTo ns_ne hns, toList_pathTo ms_ne hms] at this
    exact List.append_cancel_left this
  have cut : ∀ {ls : List String}, ls ≠ [] → (∀ n ∈ ls, IsName n) →
      Text.pieces '/' (relativeText ls) = ls.map String.toList := by
    intro ls ne hls
    refine Text.pieces_joined (by simpa using ne) fun p hp => ?_
    obtain ⟨n, hn, rfl⟩ := List.mem_map.1 hp
    exact (hls n hn).no_slash
  have maps : ns.map String.toList = ms.map String.toList := by
    rw [← cut ns_ne hns, ← cut ms_ne hms, texts]
  exact (List.map_inj_right fun a b hab => String.toList_injective hab).1 maps

/-- No path below a directory is that of the directory. -/
theorem pathTo_ne {path : String} {names : List String} (ne : names ≠ [])
    (h : ∀ n ∈ names, IsName n) : pathTo path names ≠ path := by
  intro heq
  have lengths := congrArg (List.length ∘ String.toList) heq
  obtain ⟨name, rest, rfl⟩ := List.exists_cons_of_ne_nil ne
  have some : name.toList ≠ [] := fun hn =>
    (h name List.mem_cons_self).ne_empty (String.toList_eq_nil_iff.1 hn)
  have longer : 0 < (relativeText (name :: rest)).length := by
    have first : 0 < name.toList.length := List.length_pos_iff.2 some
    cases rest with
    | nil => exact first
    | cons next more =>
      simp only [relativeText, List.map_cons, Text.joined, List.length_append]
      omega
  have stemmed : path.toList.length ≤ (stem path).toList.length := by
    unfold stem
    split <;> simp
  simp only [Function.comp_apply, toList_pathTo ne h, List.length_append] at lengths
  omega

/-! ## §3 Back -/

/-- Two dots apart, the last piece of a path is followed from what the others
lead to, whatever is above that. -/
theorem follow_concat {above : List Tree} {here : Tree} {ps : List (List Char)} {p : List Char}
    (h : p ≠ ['.', '.']) :
    follow above here (ps ++ [p]) = (follow above here ps).bind fun c => follow [] c [p] := by
  induction ps generalizing above here with
  | nil => simp [follow, h]
  | cons q rest ih =>
    rw [List.cons_append, follow.eq_def above here (q :: (rest ++ [p])),
      follow.eq_def above here (q :: rest)]
    dsimp only
    split
    · rfl
    · split
      · exact ih
      · split
        · cases above with
          | nil => exact ih
          | cons parent higher => exact ih
        · cases here.below.find? (String.ofList q) with
          | none => rfl
          | some c => exact ih

theorem follow_name {above : List Tree} {t : Tree} {name : String} (h : IsName name) :
    follow above t [name.toList] = t.child? name := by
  have empty : name.toList ≠ [] := fun hn => h.ne_empty (String.toList_eq_nil_iff.1 hn)
  have dot : name.toList ≠ ['.'] := fun hn => h.ne_dot (String.toList_injective hn)
  have dots : name.toList ≠ ['.', '.'] := fun hn => h.ne_dots (String.toList_injective hn)
  unfold child?
  cases hk : t.kind.isDirectory with
  | false => simp [follow, hk]
  | true =>
    cases hf : t.below.find? name <;> simp [follow, hk, empty, dot, dots, hf]

theorem follow_empty {above : List Tree} {t c : Tree} (h : follow above t [[]] = some c) :
    c = t := by
  cases hk : t.kind.isDirectory <;> simp [follow, hk] at h
  exact h.symm

/-- A name joined to the path of a place names the child of that name. -/
theorem resolve?_join {t here : Tree} {path name : String} (h : t.resolve? path = some here)
    (isName : IsName name) : t.resolve? (join path name) = here.child? name := by
  have dots : name.toList ≠ ['.', '.'] := fun hn => isName.ne_dots (String.toList_injective hn)
  have cut : Text.pieces '/' name.toList = [name.toList] := Text.pieces_of_not_mem isName.no_slash
  have joined : join path name ≠ "" := by
    intro hj
    rw [join_eq, ← String.toList_eq_nil_iff, String.toList_append, List.append_eq_nil_iff] at hj
    exact isName.ne_empty (String.toList_eq_nil_iff.1 hj.2)
  unfold resolve? at h ⊢
  rw [if_neg joined]
  split at h
  · exact absurd h (by simp)
  · unfold join
    split
    · rename_i hlast
      -- The path ends with a slash: its last piece is empty and stays where it is.
      obtain ⟨before, hb⟩ : ∃ before, path.toList = before ++ ['/'] := by
        obtain ⟨before, hb⟩ := List.getLast?_eq_some_iff.1 hlast
        exact ⟨before, hb⟩
      rw [hb, Text.pieces_append, Text.pieces, follow_concat (by simp),
        Option.bind_eq_some_iff] at h
      obtain ⟨c, hc, hstay⟩ := h
      obtain rfl := follow_empty hstay
      rw [String.toList_append, hb, List.append_assoc, List.singleton_append, Text.pieces_append,
        cut, follow_concat dots, hc]
      exact follow_name isName
    · rw [String.toList_append, String.toList_append, List.append_assoc]
      rw [show "/".toList ++ name.toList = '/' :: name.toList from rfl, Text.pieces_append, cut,
        follow_concat dots, h]
      exact follow_name isName

/-- The path of a place below names that place, provided that its names are
proper ones. -/
theorem resolve?_pathTo {t here : Tree} {path : String} (h : t.resolve? path = some here)
    {names : List String} (areNames : ∀ n ∈ names, IsName n) {c : Tree}
    (hc : here.at? names = some c) : t.resolve? (pathTo path names) = some c := by
  induction names generalizing path here with
  | nil =>
    obtain rfl := Option.some.inj hc
    exact h
  | cons name rest ih =>
    rw [at?_cons, Option.bind_eq_some_iff] at hc
    obtain ⟨d, hd, hc⟩ := hc
    have step : t.resolve? (join path name) = some d := by
      rw [resolve?_join h (areNames name List.mem_cons_self), hd]
    exact ih step (fun n hn => areNames n (List.mem_cons_of_mem _ hn)) hc

end TreeSift.Tree
