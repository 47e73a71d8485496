/-
  TreeSift.Proofs.Search.OnePass — spellings left out at once.

  Resolving a wildcard pattern makes a set at every directory on the way, and a
  set leaves out what an earlier path equals up to case. The recursion can as
  well be carried out on lists, in which a path stands once for every route that
  leads to it (`routes`), and the later spellings be left out in the end: the
  same paths stay, in the same order, or the same failure is met
  (`resolve_in_one_pass`).

    §1 Routes    `routes`
    §2 Together  `collect_ofList`, `resolve_eq_ofList`, `resolve_in_one_pass`
-/
import TreeSift.Proofs.PathSet.Spellings
import TreeSift.Search.Wildcard

namespace TreeSift.Wildcard

/-! ## §1 Routes -/

/-- What the segments from an index on lead to from a directory, one after the
other and as often as there are routes to it. -/
def routes (t : Tree) (segments : List String) (target : Target) (start : Nat) (dir : String) :
    Except ListingError (List String) :=
  match _h : segments[start]? with
  | none => .ok []
  | some segment =>
    match segments[start + 1]? with
    | none => resolveLast t segment target dir
    | some next =>
      if isMultiLevel segment then
        if segments.length = start + 2 then t.descendants dir (Glob.ofText next) target
        else do
          let dirs ← t.descendants dir (Glob.ofText next) .directory
          dirs.flatMapM fun d => routes t segments target (start + 2) d
      else do
        let dirs ← t.children dir (Glob.ofText segment) .directory
        dirs.flatMapM fun d => routes t segments target (start + 1) d
termination_by segments.length - start
decreasing_by
  all_goals
    have := (List.getElem?_eq_some_iff.1 _h).1
    omega

section Equations

variable {t : Tree} {segments : List String} {target : Target} {start : Nat} {dir segment : String}

theorem routes_of_none (none : segments[start]? = none) :
    routes t segments target start dir = .ok [] := by
  rw [routes]
  split
  · rfl
  · rename_i other found
    rw [none] at found
    exact absurd found (by simp)

/-- The recursion at a segment, by what comes after it. -/
theorem routes_of_some (found : segments[start]? = some segment) :
    routes t segments target start dir =
      match segments[start + 1]? with
      | none => resolveLast t segment target dir
      | some next =>
        if isMultiLevel segment then
          if segments.length = start + 2 then t.descendants dir (Glob.ofText next) target
          else
            t.descendants dir (Glob.ofText next) .directory >>= fun dirs =>
              dirs.flatMapM fun d => routes t segments target (start + 2) d
        else
          t.children dir (Glob.ofText segment) .directory >>= fun dirs =>
            dirs.flatMapM fun d => routes t segments target (start + 1) d := by
  rw [routes]
  split
  · rename_i none
    rw [found] at none
    exact absurd none (by simp)
  · rename_i other same
    obtain rfl : segment = other := Option.some.inj (found.symm.trans same)
    rfl

end Equations

/-! ## §2 Together -/

/-- Sets put together in order are the set of the lists put together. -/
theorem collect_ofList (ways : String → Except ListingError (List String)) (dirs : List String) :
    collect dirs (fun d => PathSet.ofList <$> ways d) = PathSet.ofList <$> dirs.flatMapM ways := by
  -- What has been collected so far is the set of a list as well.
  suffices onward : ∀ sofar : List String,
      dirs.foldlM (fun found dir => do
        return found.insertAll (← PathSet.ofList <$> ways dir).toList) (PathSet.ofList sofar) =
      (fun more => PathSet.ofList (sofar ++ more)) <$> dirs.flatMapM ways from onward []
  induction dirs with
  | nil =>
    intro sofar
    rw [List.foldlM_nil, List.flatMapM_nil, map_pure, List.append_nil]
  | cons d rest ih =>
    intro sofar
    rw [List.foldlM_cons, List.flatMapM_cons]
    cases ways d with
    | error e => rfl
    | ok paths =>
      have added : (PathSet.ofList sofar).insertAll (PathSet.ofList paths).toList =
          PathSet.ofList (sofar ++ paths) := by
        rw [PathSet.insertAll_ofList, PathSet.ofList_append]
      rw [Fallible.map_ok, Fallible.ok_bind, Fallible.pure_eq_ok, Fallible.ok_bind, added, ih,
        Fallible.ok_bind]
      cases rest.flatMapM ways with
      | error e => rfl
      | ok more =>
        rw [Fallible.map_ok, Fallible.ok_bind, Fallible.pure_eq_ok, Fallible.map_ok,
          List.append_assoc]

/-- Resolving is making a set of all routes. -/
theorem resolve_eq_ofList (t : Tree) (segments : List String) (target : Target) (start : Nat)
    (dir : String) :
    resolve t segments target start dir =
      PathSet.ofList <$> routes t segments target start dir := by
  fun_induction resolve t segments target start dir with
  | case1 start dir none => rw [routes_of_none none, Fallible.map_ok]; rfl
  | case2 start dir segment found last =>
    simp only [routes_of_some found, last, map_eq_pure_bind]
  | case3 start dir segment found next more marker last =>
    simp only [routes_of_some found, more, if_pos marker, if_pos last, map_eq_pure_bind]
  | case4 start dir segment found next more marker further ih =>
    simp only [routes_of_some found, more, if_pos marker, if_neg further, ih, collect_ofList,
      map_bind]
  | case5 start dir segment found next more ordinary ih =>
    simp only [routes_of_some found, more, if_neg ordinary, ih, collect_ofList, map_bind]

/-- **Deduplicating once is enough.** Resolving segments from an index on, where every
step keeps the first spellings of what it has found, comes to the same as collecting
all routes in lists and keeping the first spellings in the end: it fails with the same
error, or has the same members, equally spelled and in the same order. -/
theorem resolve_in_one_pass (t : Tree) (segments : List String) (target : Target) (start : Nat)
    (dir : String) :
    PathSet.toList <$> resolve t segments target start dir =
      firstSpellings <$> routes t segments target start dir := by
  rw [resolve_eq_ofList]
  cases routes t segments target start dir with
  | error e => rfl
  | ok paths =>
    rw [Fallible.map_ok, Fallible.map_ok, Fallible.map_ok, PathSet.toList_ofList]

end TreeSift.Wildcard
