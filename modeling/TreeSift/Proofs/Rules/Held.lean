/-
  TreeSift.Proofs.Rules.Held — what a session holds after any calls.

  A session is asked to carry out lists of rules, each below a root of its own, and
  to empty its sets. Whatever it is asked, and whether or not a list ends early, a
  path that it holds is that of something of the right kind strictly below a root
  that it was given, spelled as that root was, and still names it; no two of them
  have the same key (`held_below_roots`).

  What carries this through a list that fails half-way is that a property of a set
  which every rule keeps is kept by every line (`runLines_keeps`).

    §1 Places    `SpelledBelow`, `spelledBelow_pathTo`
    §2 Searches  `search_spelledBelow`
    §3 Lists     `runLines_keeps`, `run_keeps`
    §4 Calls     `Call`, `Session.afterCalls`, `held_below_roots`
-/
import TreeSift.Proofs.Rules.Effects
import TreeSift.Proofs.Search.Regex
import TreeSift.Proofs.Search.Wildcard

namespace TreeSift

open Tree (pathTo stem)

variable {σ : Type}

/-! ## §1 Places -/

/-- A path is spelled below a root: it is the root, a slash unless the root ends
with one, and some names joined by slashes; the names lead from the directory of the
root to something that a target wants, and the path names the same. -/
def SpelledBelow (t : Tree) (target : Target) (root path : String) : Prop :=
  ∃ (here : Tree) (names : List String) (c : Tree),
    t.resolve? root = some here ∧ names ≠ [] ∧ here.at? names = some c ∧
      target.wants c = true ∧ path = stem root ++ "/".intercalate names ∧
      t.resolve? path = some c

theorem spelledBelow_pathTo {t here : Tree} (wf : t.WellFormed) {root : String}
    (h : t.resolve? root = some here) {target : Target} {q : Tree.Place}
    (hat : here.at? q.names = some q.tree) (wanted : target.wants q.tree = true) :
    SpelledBelow t target root (pathTo root q.names) := by
  have areNames : ∀ n ∈ q.names, IsName n := ((wf.of_resolve? h).of_at? hat).1
  exact ⟨here, q.names, q.tree, h, q.names_ne_nil, hat, wanted,
    Tree.pathTo_eq q.names_ne_nil areNames, Tree.resolve?_pathTo h areNames hat⟩

/-! ## §2 Searches -/

/-- By either method, all that is found is spelled below the root. -/
theorem search_spelledBelow {t : Tree} (wf : t.WellFormed) {method : Method}
    {root pattern : String} {target : Target} {f : Finding}
    (found : search t method (.of root pattern target) = .ok f) :
    ∀ path ∈ f.paths.toList, SpelledBelow t target root path := by
  intro path hpath
  cases method with
  | wildcard =>
    obtain ⟨here, hres, -, hp⟩ := search_eq_ok found
    have gathered := Wildcard.resolve_gathers (Wildcard.isChain_collapse _) hres
      (wf.of_resolve? hres) (Fallible.mapError_eq_ok.1 hp)
    obtain ⟨q, hat, wanted, -, rfl⟩ := gathered.sound path hpath
    exact spelledBelow_pathTo wf hres hat wanted
  | regex sep =>
    obtain ⟨here, hres, -, hp⟩ := search_eq_ok found
    obtain ⟨r, -, hp⟩ := Fallible.bind_eq_ok.1 hp
    obtain ⟨ps, hd, hf⟩ := Fallible.bind_eq_ok.1 (Fallible.mapError_eq_ok.1 hp)
    obtain ⟨qs, rfl, members, -⟩ := Tree.descendants_everyName hres (wf.of_resolve? hres) hd
    have listed := congrArg PathSet.toList (Except.ok.inj hf)
    rw [PathSet.toList_ofList] at listed
    rw [← listed] at hpath
    have met := (List.mem_filter.1 (mem_of_mem_firstSpellings hpath)).1
    obtain ⟨q, hq, rfl⟩ := List.mem_map.1 met
    exact spelledBelow_pathTo wf hres ((members q).1 hq).1 ((members q).1 hq).2

/-- All that a rule adds to the set of its target is spelled below the root. -/
theorem Rule.mem_effect {t : Tree} (wf : t.WellFormed) {root : String} {r : Rule}
    {kept : PathSet} {path : String} (h : path ∈ (r.effect t root kept).toList) :
    path ∈ kept.toList ∨ SpelledBelow t r.target root path := by
  unfold effect at h
  cases hf : search t r.method (r.request root) with
  | error e =>
    rw [hf] at h
    exact .inl h
  | ok f =>
    rw [hf] at h
    cases ha : r.action with
    | add =>
      rw [ha] at h
      exact (PathSet.mem_insertAll h).imp_right (search_spelledBelow wf hf path)
    | remove =>
      rw [ha] at h
      exact .inl (PathSet.mem_eraseAll h)

/-! ## §3 Lists -/

namespace Ruling

variable {g : Ruling σ} {t : Tree} {root : String} {target : Target} {P : PathSet → Prop}

/-- What every rule for a target keeps, lines keep, and also those of a list that
ends early. -/
theorem runLines_keeps (noCustom : g.custom = none)
    (kept : ∀ r : Rule, r.target = target → ∀ s, P s → P (r.effect t root s))
    (lines : List (Option String)) (s : Session σ) (h : P (s.gathered target)) :
    P ((g.runLines t root lines s).2.gathered target) := by
  induction lines generalizing s with
  | nil => exact h
  | cons raw rest ih =>
    rw [runLines]
    split
    · split
      · rw [Session.debug, Rule.gathered_journal]
        exact h
      · exact ih s h
    · have here : P ((g.runLine t root (Text.trim (raw.getD "")) s).2.gathered target) := by
        rw [gathered_runLine noCustom raw s target]
        cases Rule.parse? raw with
        | none => exact h
        | some r =>
          by_cases ht : r.target = target
          · simpa [ht] using kept r ht _ h
          · simpa [ht] using h
      split
      · rename_i e next hnext
        rw [hnext] at here
        exact here
      · rename_i next hnext
        rw [hnext] at here
        exact ih next here

/-- What every rule below the root that is given keeps, a call keeps, whether it
succeeds or not. -/
theorem run_keeps (noCustom : g.custom = none) {place : Option Root} {rules : Option RuleList}
    (kept : ∀ root, place = some (.path root) →
      ∀ r : Rule, r.target = target → ∀ s, P s → P (r.effect t root s))
    (s : Session σ) (h : P (s.gathered target)) :
    P ((g.run t place rules s).2.gathered target) := by
  unfold run
  cases hc : check t place rules with
  | error e => exact h
  | ok checked =>
    obtain ⟨root, list⟩ := checked
    obtain ⟨given, -, -⟩ := check_eq_ok hc
    simp only
    rw [runBelow_eq, gathered_leaving]
    exact runLines_keeps noCustom (kept root given) list.toLines (s.entering root) h

end Ruling

/-! ## §4 Calls -/

/-- What a session can be asked. -/
inductive Call where
  /-- To carry out a list of rules below a place. -/
  | run (place : Option Root) (rules : Option RuleList)
  /-- To empty the set of a target, or both. -/
  | reset (target : Option Target)

/-- The session that a call leaves, whether it succeeds or not. -/
def Call.after (g : Ruling σ) (t : Tree) (s : Session σ) : Call → Session σ
  | run place rules => (g.run t place rules s).2
  | reset target => s.reset target

/-- The session that calls leave, one after the other. -/
def Session.afterCalls (g : Ruling σ) (t : Tree) (s : Session σ) (calls : List Call) : Session σ :=
  calls.foldl (Call.after g t) s

/-- A set of which every member is spelled below a root that some call was given. -/
def HeldBelow (t : Tree) (target : Target) (calls : List Call) (s : PathSet) : Prop :=
  ∀ path ∈ s.toList, ∃ root rules, Call.run (some (.path root)) rules ∈ calls ∧
    SpelledBelow t target root path

theorem heldBelow_empty (t : Tree) (target : Target) (calls : List Call) :
    HeldBelow t target calls .empty := by
  intro path hpath
  exact absurd hpath (by simp [PathSet.toList, PathSet.empty])

/-- Emptying sets leaves each as it is or empty. -/
theorem Session.gathered_reset (s : Session σ) (which : Option Target) (target : Target) :
    (s.reset which).gathered target = s.gathered target ∨
      (s.reset which).gathered target = .empty := by
  cases which with
  | none => cases target <;> exact .inr rfl
  | some other =>
    by_cases ht : target = other
    · subst ht
      exact .inr (s.gathered_modifyGathered_self target _)
    · exact .inl (s.gathered_modifyGathered_ne _ ht)

/-- One call. -/
theorem HeldBelow.after {t : Tree} (wf : t.WellFormed) {g : Ruling σ}
    (noCustom : g.custom = none) {target : Target} {calls : List Call} {call : Call}
    (among : call ∈ calls) (s : Session σ) (h : HeldBelow t target calls (s.gathered target)) :
    HeldBelow t target calls ((call.after g t s).gathered target) := by
  cases call with
  | run place rules =>
    refine Ruling.run_keeps noCustom (fun root given r hr kept hk path hpath => ?_) s h
    subst given hr
    rcases Rule.mem_effect wf hpath with old | new
    · exact hk path old
    · exact ⟨root, rules, among, new⟩
  | reset which =>
    show HeldBelow t target calls ((s.reset which).gathered target)
    rcases s.gathered_reset which target with same | none
    · exact same ▸ h
    · exact none ▸ heldBelow_empty t target calls

/-- Calls one after the other. -/
theorem HeldBelow.afterCalls {t : Tree} (wf : t.WellFormed) {g : Ruling σ}
    (noCustom : g.custom = none) {target : Target} {calls : List Call} :
    ∀ (made : List Call), made ⊆ calls → ∀ s : Session σ,
      HeldBelow t target calls (s.gathered target) →
        HeldBelow t target calls ((s.afterCalls g t made).gathered target) := by
  intro made among
  induction made with
  | nil => exact fun s h => h
  | cons call rest ih =>
    intro s h
    have here := h.after wf noCustom (among List.mem_cons_self) s
    exact ih (fun c hc => among (List.mem_cons_of_mem _ hc)) (call.after g t s) here

/-- **What a session holds.** From a fresh session on, whatever lists of rules are
carried out, below whatever roots, to the end or not, and whichever sets are emptied
in between: without a custom rule, each path that the set of a target holds is spelled
below a root that one of the calls was given, and leads strictly below it to something
that the target wants; no two paths of a set have the same key. -/
theorem held_below_roots {t : Tree} (wf : t.WellFormed) {g : Ruling σ}
    (noCustom : g.custom = none) (journal : Journal) (memory : σ) (calls : List Call)
    (target : Target) :
    let held := (((Session.start journal memory).afterCalls g t calls).gathered target).toList
    (∀ path ∈ held, ∃ root rules, Call.run (some (.path root)) rules ∈ calls ∧
      SpelledBelow t target root path) ∧ (held.map pathKey).Nodup := by
  intro held
  refine ⟨?_, ?_⟩
  · have fresh : HeldBelow t target calls ((Session.start journal memory).gathered target) := by
      cases target <;> exact heldBelow_empty t _ calls
    exact HeldBelow.afterCalls wf noCustom calls (List.Subset.refl calls) _ fresh
  · rw [← PathSet.keys_eq]
    exact PathSet.keys_nodup _

/-- A tree with a place whose kind cannot be found out. -/
def halfReadable : Tree := .ofPlaces [("/r/a/x", .file), ("/r/b", .directory), ("/s/l", .loop)]

/-- A list that fails at its last line, one that fails below another root, and one
below the first root in another spelling, with a reset between them. -/
def brokenOffCalls : List Call := [
  .run (some (.path "/r/.")) (some (.text "+wf:a/X\n+wd:*\n+rf:(")),
  .reset (some .directory),
  .run (some (.path "s")) (some (.text "+rf:x\n+wf:a/x")),
  .run (some (.path "r")) (some (.text "+rf:X|x\n+wd:**"))]

/-- The set of a target after these calls. -/
def heldAfterCalls (target : Target) : List String :=
  (((Session.start .empty ()).afterCalls ⟨false, none⟩ halfReadable brokenOffCalls).gathered
    target).toList

/-- What was found before a list failed is held, in the spelling of its root. -/
theorem held_after_broken_lists :
    halfReadable.WellFormed ∧ heldAfterCalls .file = ["/r/./a/x", "r/a/x"] ∧
    heldAfterCalls .directory = ["r/a", "r/b"] ∧
    ∀ target, ∀ path ∈ heldAfterCalls target, ∃ root rules,
      Call.run (some (.path root)) rules ∈ brokenOffCalls ∧
        SpelledBelow halfReadable target root path := by
  have wf : halfReadable.WellFormed := by decide
  exact ⟨wf, by decide +kernel, by decide +kernel,
    fun target => (held_below_roots wf rfl .empty () brokenOffCalls target).1⟩

end TreeSift
