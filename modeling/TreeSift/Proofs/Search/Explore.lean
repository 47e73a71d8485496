/-
  TreeSift.Proofs.Search.Explore — resolving a list of segments by recursion.

  The segments that are still to be resolved are a list that gets shorter by
  one, or by two at a marker. The index into the list of all segments is another
  way to say which list that is (`resolve_eq_explore`). So the segments before
  the index say nothing (`resolve_depends_on_suffix`).

    §1 Lists     `explore`, `resolve_eq_explore`
    §2 Suffixes  `resolve_depends_on_suffix`
-/
import TreeSift.Search.Wildcard

namespace TreeSift.Wildcard

/-! ## §1 Lists -/

/-- What a list of segments leads to from a directory. -/
def explore (t : Tree) (target : Target) : List String → String → Except ListingError PathSet
  | [], _ => .ok .empty
  | [segment], dir => do return .ofList (← resolveLast t segment target dir)
  | segment :: next :: rest, dir =>
    if isMultiLevel segment then
      if rest = [] then do return .ofList (← t.descendants dir (Glob.ofText next) target)
      else do
        let dirs ← t.descendants dir (Glob.ofText next) .directory
        collect dirs fun d => explore t target rest d
    else do
      let dirs ← t.children dir (Glob.ofText segment) .directory
      collect dirs fun d => explore t target (next :: rest) d

theorem drop_eq_cons {segments : List String} {start : Nat} {segment : String}
    (h : segments[start]? = some segment) :
    segments.drop start = segment :: segments.drop (start + 1) := by
  obtain ⟨hlt, rfl⟩ := List.getElem?_eq_some_iff.1 h
  exact List.drop_eq_getElem_cons hlt

/-- The index stands for the segments from it on. -/
theorem resolve_eq_explore (t : Tree) (segments : List String) (target : Target) (start : Nat)
    (dir : String) :
    resolve t segments target start dir = explore t target (segments.drop start) dir := by
  fun_induction resolve t segments target start dir with
  | case1 start dir hn =>
    rw [List.drop_eq_nil_of_le (List.getElem?_eq_none_iff.1 hn), explore]
  | case2 start dir segment hs hn =>
    rw [drop_eq_cons hs, List.drop_eq_nil_of_le (List.getElem?_eq_none_iff.1 hn), explore]
  | case3 start dir segment hs next hnext marker last =>
    rw [drop_eq_cons hs, drop_eq_cons hnext, List.drop_eq_nil_of_le (by omega), explore,
      if_pos marker, if_pos rfl]
  | case4 start dir segment hs next hnext marker more ih =>
    have hlt : start + 1 < segments.length := (List.getElem?_eq_some_iff.1 hnext).1
    have rest : segments.drop (start + 1 + 1) ≠ [] := by
      rw [ne_eq, List.drop_eq_nil_iff]
      omega
    rw [drop_eq_cons hs, drop_eq_cons hnext, explore, if_pos marker, if_neg rest]
    simp only [ih]
  | case5 start dir segment hs next hnext marker ih =>
    rw [drop_eq_cons hs, drop_eq_cons hnext, explore, if_neg marker]
    simp only [ih, drop_eq_cons hnext]

/-! ## §2 Suffixes -/

/-- **The index stands for a suffix.** To resolve segments from an index on, within the list
or beyond its end, is to resolve the segments from there on as a list of their own. So two
lists that are the same from two indices on lead to the same paths there, equally spelled
and in the same order, or to the same failure, whatever stands before. -/
theorem resolve_depends_on_suffix (t : Tree) (target : Target) (dir : String) :
    (∀ (segments : List String) (start : Nat),
      resolve t segments target start dir = resolve t (segments.drop start) target 0 dir) ∧
    (∀ (segments others : List String) (start otherStart : Nat),
      segments.drop start = others.drop otherStart →
      resolve t segments target start dir = resolve t others target otherStart dir) := by
  constructor
  · intro segments start
    calc resolve t segments target start dir
        = explore t target (segments.drop start) dir := resolve_eq_explore ..
      _ = explore t target ((segments.drop start).drop 0) dir := by rw [List.drop_zero]
      _ = resolve t (segments.drop start) target 0 dir := (resolve_eq_explore ..).symm
  · intro segments others start otherStart same
    rw [resolve_eq_explore, resolve_eq_explore, same]

/-- A tree with directories of one name at two depths, one with a file in two spellings. -/
def hallsInHalls : Tree :=
  .ofPlaces [("/r/hall/door", .file), ("/r/west/hall/door", .file), ("/r/west/hall/Door", .file),
    ("/r/west/yard/door", .file)]

/-- Two lists of segments that begin with other names and with a marker in another place:
from their indices on both mean the doors of all halls, from the beginning they do not. -/
theorem resolve_doors_of_halls :
    ["east", "**", "**", "h*", "door"].drop 2 = ["w?st", "**", "h*", "door"].drop 1 ∧
    ∃ s, resolve hallsInHalls ["east", "**", "**", "h*", "door"] .file 2 "/r" = .ok s ∧
      resolve hallsInHalls ["w?st", "**", "h*", "door"] .file 1 "/r" = .ok s ∧
      s.toList = ["/r/hall/door", "/r/west/hall/door"] ∧
      ((resolve hallsInHalls ["w?st", "**", "h*", "door"] .file 0 "/r").toOption.map
        PathSet.toList) = some ["/r/west/hall/door"] := by
  have same : ["east", "**", "**", "h*", "door"].drop 2 = ["w?st", "**", "h*", "door"].drop 1 := rfl
  have outcomes := (resolve_depends_on_suffix hallsInHalls .file "/r").2 _ _ 2 1 same
  have found : ((resolve hallsInHalls ["east", "**", "**", "h*", "door"] .file 2 "/r").toOption.map
      PathSet.toList) = some ["/r/hall/door", "/r/west/hall/door"] := by decide +kernel
  refine ⟨same, ?_⟩
  cases hs : resolve hallsInHalls ["east", "**", "**", "h*", "door"] .file 2 "/r" with
  | error e => simp [hs, Except.toOption] at found
  | ok s =>
    rw [hs] at outcomes found
    exact ⟨s, rfl, outcomes.symm, Option.some.inj found, by decide +kernel⟩

end TreeSift.Wildcard
