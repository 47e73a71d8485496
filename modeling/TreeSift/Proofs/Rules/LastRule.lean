/-
  TreeSift.Proofs.Rules.LastRule — the last rule that finds a path decides.

  Of everything that rules do to a path, up to case, only the last counts: if it
  adds the path, the path is there, and if it removes the path, it is not. A path
  that no rule finds stays as it is (`mem_keys_effects`). The rules for the other
  target say nothing, and a second run says the same as the first
  (`run_last_rule_decides`).

    §1 One rule   `Rule.Finds`, `mem_keys_effect`
    §2 Rules      `LastSays`, `mem_keys_effects`
    §3 Runs       `run_last_rule_decides`
-/
import TreeSift.Proofs.PathSet.Gathering
import TreeSift.Proofs.Rules.Effects

namespace TreeSift

/-! ## §1 One rule -/

namespace Rule

/-- A rule finds a key if its search finds a path with that key. -/
def Finds (t : Tree) (root key : String) (r : Rule) : Prop :=
  ∃ found, search t r.method (r.request root) = .ok found ∧
    key ∈ found.paths.toList.map pathKey

/-- A rule decides about the keys that it finds, and about no others. -/
theorem mem_keys_effect {t : Tree} {root key : String} {kept : PathSet} {r : Rule} :
    key ∈ (r.effect t root kept).keys ↔
      (r.Finds t root key ∧ r.action = .add) ∨ (¬ r.Finds t root key ∧ key ∈ kept.keys) := by
  unfold effect
  cases hs : search t r.method (r.request root) with
  | error e =>
    have nothing : ¬ r.Finds t root key := by
      rintro ⟨found, hf, -⟩
      rw [hs] at hf
      exact absurd hf (by simp)
    simp [nothing]
  | ok found =>
    have finds : r.Finds t root key ↔ key ∈ found.paths.toList.map pathKey := by
      constructor
      · rintro ⟨f, hf, hk⟩
        obtain rfl := Except.ok.inj (hs.symm.trans hf)
        exact hk
      · exact fun hk => ⟨found, hs, hk⟩
    rw [finds]
    cases r.action with
    | add =>
      simp only [PathSet.mem_keys_insertAll, and_true]
      by_cases hk : key ∈ found.paths.toList.map pathKey <;> simp [hk]
    | remove =>
      simp only [PathSet.mem_keys_eraseAll, reduceCtorEq, and_false, false_or]
      exact And.comm

end Rule

/-! ## §2 Rules -/

/-- What the last of some rules that finds something says: that it is there
because this rule adds it, or that it is there as before because there is no such
rule. -/
def LastSays (finds : Rule → Prop) (rules : List Rule) (before : Prop) : Prop :=
  (∃ earlier r later, rules = earlier ++ r :: later ∧ finds r ∧ (∀ q ∈ later, ¬ finds q) ∧
    r.action = .add) ∨
  ((∀ r ∈ rules, ¬ finds r) ∧ before)

theorem lastSays_nil {finds : Rule → Prop} {before : Prop} :
    LastSays finds [] before ↔ before := by
  simp [LastSays]

/-- What the last rule says does not change when the first one is carried out. -/
theorem lastSays_cons {finds : Rule → Prop} {r : Rule} {rest : List Rule} {before : Prop} :
    LastSays finds (r :: rest) before ↔
      LastSays finds rest ((finds r ∧ r.action = .add) ∨ (¬ finds r ∧ before)) := by
  constructor
  · rintro (⟨earlier, q, later, hsplit, hq, none, adds⟩ | ⟨none, hb⟩)
    · rcases List.cons_eq_append_iff.1 hsplit with ⟨-, hrest⟩ | ⟨more, -, hrest⟩
      · obtain ⟨rfl, rfl⟩ := List.cons.inj hrest
        exact .inr ⟨none, .inl ⟨hq, adds⟩⟩
      · exact .inl ⟨more, q, later, hrest, hq, none, adds⟩
    · obtain ⟨first, others⟩ := List.forall_mem_cons.1 none
      exact .inr ⟨others, .inr ⟨first, hb⟩⟩
  · rintro (⟨earlier, q, later, rfl, hq, none, adds⟩ | ⟨none, ⟨hr, adds⟩ | ⟨hr, hb⟩⟩)
    · exact .inl ⟨r :: earlier, q, later, rfl, hq, none, adds⟩
    · exact .inl ⟨[], r, rest, rfl, hr, none, adds⟩
    · exact .inr ⟨List.forall_mem_cons.2 ⟨hr, none⟩, hb⟩

/-- What is said twice is said once. -/
theorem lastSays_lastSays {finds : Rule → Prop} {rules : List Rule} {before : Prop} :
    LastSays finds rules (LastSays finds rules before) ↔ LastSays finds rules before := by
  constructor
  · rintro (added | ⟨none, said⟩)
    · exact .inl added
    · exact said
  · intro said
    rcases said with added | ⟨none, hb⟩
    · exact .inl added
    · exact .inr ⟨none, .inr ⟨none, hb⟩⟩

/-- A key is there after some rules if the last one that finds it says so. -/
theorem mem_keys_effects {t : Tree} {root key : String} (rules : List Rule) (kept : PathSet) :
    key ∈ (rules.foldl (Rule.effect t root) kept).keys ↔
      LastSays (Rule.Finds t root key) rules (key ∈ kept.keys) := by
  induction rules generalizing kept with
  | nil => exact lastSays_nil.symm
  | cons r rest ih => rw [List.foldl_cons, ih, Rule.mem_keys_effect, ← lastSays_cons]

/-! ## §3 Runs -/

namespace Ruling

variable {σ : Type} {g : Ruling σ} {t : Tree} {root : String}

/-- A run that succeeds has carried out the rules for each target, each kind on
its own set. -/
theorem gathered_run (noCustom : g.custom = none) {rules : RuleList} {s s' : Session σ}
    (ran : g.run t (some (.path root)) (some rules) s = (.ok (), s')) (target : Target) :
    s'.gathered target =
      (g.rulesFor target rules.toLines).foldl (Rule.effect t root) (s.gathered target) := by
  obtain ⟨-, u, u', lines, before, after⟩ := run_eq_ok ran
  rw [after, gathered_runLines noCustom lines, before]

/-- **The last matching rule decides.** After a run that succeeds, a key is in the
set of a target if the last rule for this target that finds it, among the lines
that the run came to, adds it, or if there is no such rule and it was there
before. A run with the same rules for this target, whatever it has for the other
one, makes the same of the same set. A second run of a list succeeds as well and
leaves all keys as they are. -/
theorem run_last_rule_decides (noCustom : g.custom = none) {rules : RuleList}
    {s s' : Session σ} (ran : g.run t (some (.path root)) (some rules) s = (.ok (), s')) :
    (∀ target key, key ∈ (s'.gathered target).keys ↔
      LastSays (Rule.Finds t root key) (g.rulesFor target rules.toLines)
        (key ∈ (s.gathered target).keys)) ∧
    (∀ target others u u', g.run t (some (.path root)) (some others) u = (.ok (), u') →
      g.rulesFor target others.toLines = g.rulesFor target rules.toLines →
      u.gathered target = s.gathered target → u'.gathered target = s'.gathered target) ∧
    ∃ s'', g.run t (some (.path root)) (some rules) s' = (.ok (), s'') ∧
      ∀ target key, key ∈ (s''.gathered target).keys ↔ key ∈ (s'.gathered target).keys := by
  have law : ∀ {u u' : Session σ}, g.run t (some (.path root)) (some rules) u = (.ok (), u') →
      ∀ target key, key ∈ (u'.gathered target).keys ↔
        LastSays (Rule.Finds t root key) (g.rulesFor target rules.toLines)
          (key ∈ (u.gathered target).keys) := by
    intro u u' h target key
    rw [gathered_run noCustom h, mem_keys_effects]
  refine ⟨law ran, ?_, ?_⟩
  · intro target others u u' h same before
    rw [gathered_run noCustom h, gathered_run noCustom ran, same, before]
  · have again : (g.run t (some (.path root)) (some rules) s').1 = .ok () := by
      rw [run_fst_congr noCustom _ _ s' s, ran]
    refine ⟨_, Prod.ext again rfl, fun target key => ?_⟩
    rw [law (Prod.ext again rfl), law ran, lastSays_lastSays]

/-- Two files of one name in two places, and a third file. -/
def mixedTree : Tree := .ofPlaces [("/r/a", .file), ("/r/d/a", .file), ("/r/b", .file)]

/-- Rules of all kinds, with an absent line at which a run can halt. -/
def mixedRules : List (Option String) :=
  [some " +wf:** ", some "-RF:^A", some "-wd:**", some "+wf:d/**/A", none, some "-wf:**"]

/-- A halting run of these rules, with a file that none of them finds. -/
def mixedRun : Outcome Unit :=
  run ⟨true, none⟩ mixedTree (some (.path "/r")) (some (.lines mixedRules))
    ⟨.ofList ["/r/gone"], .empty, .empty, ()⟩

/-- One file is added and removed, another one is added again after that, and one
is not found at all. -/
theorem run_mixed_rules :
    mixedRun.1 = .ok () ∧ ∀ key, key ∈ ["/r/gone", "/r/b", "/r/d/a"] ↔
      LastSays (Rule.Finds mixedTree "/r" key)
        (rulesFor (⟨true, none⟩ : Ruling Unit) .file mixedRules)
        (key ∈ (PathSet.ofList ["/r/gone"]).keys) := by
  have succeeds : mixedRun.1 = .ok () := by decide +kernel
  have files : mixedRun.2.files.keys = ["/r/gone", "/r/b", "/r/d/a"] := by decide +kernel
  refine ⟨succeeds, fun key => ?_⟩
  rw [← files]
  exact (run_last_rule_decides rfl (Prod.ext succeeds rfl)).1 .file key

end Ruling

end TreeSift
