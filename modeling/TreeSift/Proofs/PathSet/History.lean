/-
  TreeSift.Proofs.PathSet.History — what a set owes to its history.

  Every change comes down to steps, each of which adds or discards one path or
  clears the set (`carryOut_snd`). A path enters at the step that adds it while
  its key is absent, if the key has been present ever since (`EnteredAt`). The
  members of a set are the paths that have entered, in the order in which they did
  (`exists_entries`), whatever changes have been made (`reached_members`).

    §1 Steps      `Step`, `Change.steps`, `carryOut_snd`
    §2 Histories  `history`, `afterSteps_history`
    §3 Entering   `EnteredAt`, `Entries`, `exists_entries`
    §4 Refusals   `carryOut_eq_error_iff`
    §5 Runs       `reached_members`
-/
import Mathlib.Data.List.Induction
import Mathlib.Data.Finset.Card
import TreeSift.PathSet.Change
import TreeSift.Proofs.PathSet.Gathering

namespace TreeSift.PathSet

/-! ## §1 Steps -/

/-- What a change does to a set, one path at a time. -/
inductive Step where
  | add (path : String)
  | discard (path : String)
  | clear

/-- Takes a step. -/
def Step.apply (s : PathSet) : Step → PathSet
  | add path => s.insert path
  | discard path => s.erase path
  | clear => .empty

/-- Toggling paths: each one is discarded if it is there by then, and added if not. -/
def toggleSteps (s : PathSet) : List String → List Step
  | [] => []
  | path :: rest =>
    let step : Step := if s.contains path then .discard path else .add path
    step :: toggleSteps (step.apply s) rest

/-- The steps of a change to a set. -/
def Change.steps (s : PathSet) : Change → List Step
  | add path => [.add path]
  | discard path => [.discard path]
  | remove path => if s.contains path then [.discard path] else []
  | pop => s.toList.head?.toList.map .discard
  | clear => [.clear]
  | update o => o.toList.map .add
  | differenceUpdate o => o.toList.map .discard
  | differenceUpdateOwn => s.toList.head?.toList.map .discard
  | addAll o => o.toList.map .add
  | retainAll o => (s.difference o).toList.map .discard
  | removeAll o => o.toList.map .discard
  | toggleAll o => toggleSteps s o.asSet.toList

theorem foldl_add (s : PathSet) (paths : List String) :
    (paths.map Step.add).foldl Step.apply s = s.insertAll paths := List.foldl_map

theorem foldl_discard (s : PathSet) (paths : List String) :
    (paths.map Step.discard).foldl Step.apply s = s.eraseAll paths := List.foldl_map

theorem foldl_toggleSteps (s : PathSet) (paths : List String) :
    (toggleSteps s paths).foldl Step.apply s = paths.foldl toggle s := by
  induction paths generalizing s with
  | nil => rfl
  | cons path rest ih =>
    have first : (if s.contains path then Step.discard path else .add path).apply s =
        s.toggle path := by
      unfold toggle
      split <;> rfl
    rw [toggleSteps, List.foldl_cons, List.foldl_cons, ih, first]

/-- To take the first member out is to discard it. -/
theorem popFirst?_eq (s : PathSet) :
    s.popFirst? = s.toList.head?.map fun path => (path, s.erase path) := by
  obtain ⟨members, distinct⟩ := s
  cases members with
  | nil => rfl
  | cons m rest =>
    have absent : m.key ∉ rest.map Member.key := (List.nodup_cons.1 distinct).1
    have others : (m :: rest).filter (fun n => n.key != pathKey m.path) = rest := by
      rw [← m.key_eq, List.filter_cons_of_neg (by simp), List.filter_eq_self]
      intro n hn
      exact bne_iff_ne.2 fun same => absent (same ▸ List.mem_map_of_mem hn)
    refine congrArg some (Prod.ext rfl ?_)
    simp only [erase, mk.injEq]
    exact others.symm

theorem carryOut_remove (s : PathSet) (path : String) :
    (Change.remove path).carryOut s =
      if s.contains path then (.ok none, s.erase path) else (.error (.absent path), s) := by
  rw [Change.carryOut, remove?]
  by_cases there : s.contains path = true
  · rw [if_pos there, if_pos there]
  · rw [if_neg there, if_neg there]

theorem carryOut_pop (s : PathSet) :
    Change.pop.carryOut s =
      match s.toList.head? with
      | some first => (.ok (some first), s.erase first)
      | none => (.error .noMember, s) := by
  rw [Change.carryOut, popFirst?_eq]
  cases s.toList.head? <;> rfl

/-- What a change makes of a set is what its steps make of it. -/
theorem carryOut_snd (s : PathSet) (c : Change) :
    (c.carryOut s).2 = (c.steps s).foldl Step.apply s := by
  cases c with
  | add path => rfl
  | discard path => rfl
  | remove path =>
    rw [carryOut_remove, Change.steps]
    cases s.contains path <;> rfl
  | pop =>
    rw [carryOut_pop, Change.steps]
    cases s.toList.head? <;> rfl
  | clear => rfl
  | update o => exact (foldl_add s o.toList).symm
  | differenceUpdate o => exact (foldl_discard s o.toList).symm
  | differenceUpdateOwn =>
    rw [Change.carryOut, Change.steps]
    cases s.toList.head? <;> rfl
  | addAll o => exact (foldl_add s o.toList).symm
  | retainAll o => exact (foldl_discard s (s.difference o).toList).symm
  | removeAll o => exact (foldl_discard s o.toList).symm
  | toggleAll o => exact (foldl_toggleSteps s o.asSet.toList).symm

/-! ## §2 Histories -/

/-- The set that steps lead to from the empty one. -/
def afterSteps (steps : List Step) : PathSet := steps.foldl Step.apply empty

/-- The steps of changes, one after the other. -/
def changeSteps (s : PathSet) : List Change → List Step
  | [] => []
  | c :: rest => c.steps s ++ changeSteps (c.carryOut s).2 rest

/-- All steps from the empty set on: those that add the paths of the list at the
start, and those of the changes. -/
def history (start : List String) (changes : List Change) : List Step :=
  start.map .add ++ changeSteps (ofList start) changes

theorem foldl_changeSteps (s : PathSet) (changes : List Change) :
    (changeSteps s changes).foldl Step.apply s =
      changes.foldl (fun s c => (c.carryOut s).2) s := by
  induction changes generalizing s with
  | nil => rfl
  | cons c rest ih => rw [changeSteps, List.foldl_append, ← carryOut_snd, ih, List.foldl_cons]

/-- The steps of a history lead to the set that its changes lead to. -/
theorem afterSteps_history (start : List String) (changes : List Change) :
    afterSteps (history start changes) = reached start changes := by
  rw [afterSteps, history, List.foldl_append, foldl_add]
  exact foldl_changeSteps (ofList start) changes

/-! ## §3 Entering -/

theorem afterSteps_concat (steps : List Step) (step : Step) :
    afterSteps (steps ++ [step]) = step.apply (afterSteps steps) := by
  rw [afterSteps, List.foldl_append]
  rfl

/-- A path enters at a step: the step adds it while its key is absent, and from
then on the key is present. -/
structure EnteredAt (steps : List Step) (n : Nat) (path : String) : Prop where
  added : steps[n]? = some (.add path)
  absent : pathKey path ∉ (afterSteps (steps.take n)).keys
  present : ∀ m, n < m → m ≤ steps.length → pathKey path ∈ (afterSteps (steps.take m)).keys

theorem EnteredAt.lt_length {steps : List Step} {n : Nat} {path : String}
    (h : EnteredAt steps n path) : n < steps.length := (List.getElem?_eq_some_iff.1 h.added).1

/-- A path that has entered stays so as long as its key is there. -/
theorem EnteredAt.concat {steps : List Step} {n : Nat} {path : String} {step : Step}
    (h : EnteredAt steps n path) (stays : pathKey path ∈ (afterSteps (steps ++ [step])).keys) :
    EnteredAt (steps ++ [step]) n path := by
  have lt := h.lt_length
  refine ⟨?_, ?_, fun m hnm hm => ?_⟩
  · rw [List.getElem?_append_left lt]
    exact h.added
  · rw [List.take_append_of_le_length lt.le]
    exact h.absent
  · rw [List.length_append, List.length_singleton] at hm
    rcases Nat.lt_or_ge steps.length m with hlast | hle
    · rw [List.take_of_length_le (by simp; omega)]
      exact stays
    · rw [List.take_append_of_le_length hle]
      exact h.present m hnm hle

/-- A path that is added while its key is absent enters. -/
theorem enteredAt_concat {steps : List Step} {path : String}
    (absent : pathKey path ∉ (afterSteps steps).keys) :
    EnteredAt (steps ++ [.add path]) steps.length path := by
  refine ⟨by simp, by simpa using absent, fun m hnm _ => ?_⟩
  rw [List.take_of_length_le (by simp; omega), afterSteps_concat]
  exact mem_keys_insert.2 (.inr rfl)

/-- The members of a set are the paths that have entered, each with the step at
which it did, in the order of the steps. -/
structure Entries (steps : List Step) (entries : List (Nat × String)) : Prop where
  members : entries.map Prod.snd = (afterSteps steps).toList
  ordered : entries.Pairwise fun a b => a.1 < b.1
  entered : ∀ entry ∈ entries, EnteredAt steps entry.1 entry.2

namespace Entries

variable {steps : List Step} {entries : List (Nat × String)} {entry : Nat × String} {path : String}

theorem mem_toList (h : Entries steps entries) (hentry : entry ∈ entries) :
    entry.2 ∈ (afterSteps steps).toList := by
  rw [← h.members]
  exact List.mem_map_of_mem hentry

/-- An entry whose path is still a member is an entry after one more step. -/
theorem kept (h : Entries steps entries) (hentry : entry ∈ entries) {step : Step}
    (stays : entry.2 ∈ (afterSteps (steps ++ [step])).toList) :
    EnteredAt (steps ++ [step]) entry.1 entry.2 := by
  refine (h.entered entry hentry).concat ?_
  rw [keys_eq]
  exact List.mem_map_of_mem stays

theorem add_of_contains (h : Entries steps entries)
    (there : (afterSteps steps).contains path = true) :
    Entries (steps ++ [.add path]) entries := by
  have list : (afterSteps (steps ++ [.add path])).toList = (afterSteps steps).toList := by
    rw [afterSteps_concat]
    exact (toList_insert _ path).trans (if_pos there)
  refine ⟨h.members.trans list.symm, h.ordered, fun entry hentry => h.kept hentry ?_⟩
  rw [list]
  exact h.mem_toList hentry

theorem add_of_not_contains (h : Entries steps entries)
    (absent : ¬ (afterSteps steps).contains path = true) :
    Entries (steps ++ [.add path]) (entries ++ [(steps.length, path)]) := by
  have list : (afterSteps (steps ++ [.add path])).toList =
      (afterSteps steps).toList ++ [path] := by
    rw [afterSteps_concat]
    exact (toList_insert _ path).trans (if_neg absent)
  refine ⟨by simp [list, h.members], ?_, ?_⟩
  · -- Every earlier step comes before this one.
    refine List.pairwise_append.2 ⟨h.ordered, List.pairwise_singleton _ _, ?_⟩
    intro entry hentry last hlast
    rw [List.mem_singleton.1 hlast]
    exact (h.entered entry hentry).lt_length
  · intro entry hentry
    rcases List.mem_append.1 hentry with hentry | hentry
    · refine h.kept hentry ?_
      rw [list]
      exact List.mem_append_left _ (h.mem_toList hentry)
    · rw [List.mem_singleton.1 hentry]
      exact enteredAt_concat fun hkey => absent ((contains_iff _ path).2 hkey)

theorem discard (h : Entries steps entries) (path : String) :
    Entries (steps ++ [.discard path])
      (entries.filter fun entry => pathKey entry.2 != pathKey path) := by
  have list : (afterSteps (steps ++ [.discard path])).toList =
      (afterSteps steps).toList.filter fun p => pathKey p != pathKey path := by
    rw [afterSteps_concat]
    exact toList_erase _ path
  refine ⟨?_, h.ordered.filter _, ?_⟩
  · rw [list, ← h.members, List.filter_map]
    rfl
  · intro entry hentry
    obtain ⟨hentry, other⟩ := List.mem_filter.1 hentry
    refine h.kept hentry ?_
    rw [list]
    exact List.mem_filter.2 ⟨h.mem_toList hentry, other⟩

end Entries

theorem entries_clear (steps : List Step) : Entries (steps ++ [.clear]) [] := by
  refine ⟨?_, .nil, by simp⟩
  rw [afterSteps_concat]
  rfl

/-- The members of every set that steps lead to have entered. -/
theorem exists_entries (steps : List Step) : ∃ entries, Entries steps entries := by
  induction steps using List.reverseRecOn with
  | nil => exact ⟨[], rfl, .nil, by simp⟩
  | append_singleton steps step ih =>
    obtain ⟨entries, h⟩ := ih
    cases step with
    | add path =>
      by_cases there : (afterSteps steps).contains path = true
      · exact ⟨_, h.add_of_contains there⟩
      · exact ⟨_, h.add_of_not_contains there⟩
    | discard path => exact ⟨_, h.discard path⟩
    | clear => exact ⟨_, entries_clear steps⟩

/-! ## §4 Refusals -/

/-- To add a path whose key is present, in whatever spelling, changes nothing. -/
theorem insert_of_mem_keys {s : PathSet} {path : String} (h : pathKey path ∈ s.keys) :
    s.insert path = s := by
  unfold insert insertMember
  rw [dif_neg]
  rw [Bool.not_eq_false, Member.key_of, hasKey_iff]
  exact h

/-- What fails: to remove what is not there, to take a member out of a set that
has none, and to remove the members of a set that has some while it gives them. -/
theorem carryOut_eq_error_iff {s : PathSet} {c : Change} {e : Refusal} :
    (c.carryOut s).1 = .error e ↔
      (∃ path, c = .remove path ∧ e = .absent path ∧ pathKey path ∉ s.keys) ∨
        (c = .pop ∧ e = .noMember ∧ s.toList = []) ∨
        (c = .differenceUpdateOwn ∧ e = .disturbed ∧ s.toList ≠ []) := by
  cases c with
  | remove path =>
    rw [carryOut_remove]
    cases hc : s.contains path with
    | true => simp [hc, ← contains_iff]
    | false => simpa [hc, ← contains_iff] using eq_comm
  | pop =>
    rw [carryOut_pop]
    cases s.toList with
    | nil => simpa using eq_comm
    | cons first rest => simp
  | differenceUpdateOwn =>
    rw [Change.carryOut]
    cases s.toList with
    | nil => simp
    | cons first rest => simpa using eq_comm
  | _ => simp [Change.carryOut]

/-- A change that is refused for want of a key leaves the set as it is. -/
theorem carryOut_snd_of_error {s : PathSet} {c : Change} {e : Refusal}
    (refused : (c.carryOut s).1 = .error e) (kind : e.name = "KeyError") :
    (c.carryOut s).2 = s := by
  rw [carryOut_snd]
  rcases carryOut_eq_error_iff.1 refused with ⟨path, rfl, -, absent⟩ | ⟨rfl, -, none⟩ |
    ⟨-, rfl, -⟩
  · rw [Change.steps, if_neg fun there => absent ((contains_iff s path).1 there)]
    rfl
  · rw [Change.steps, none]
    rfl
  · exact absurd kind (by decide)

/-! ## §5 Runs -/

/-- **Members and their history.** In every set that changes lead to, the keys are
those of the members and pairwise distinct. Each member is the path of the step
that last turned its key from absent to present, spelled as it was then, and the
members stand in the order of these steps. To add a path whose key is present
changes nothing. There are as many members as keys. A change that is refused for
want of a key, which can only be to remove what is not there or to take a member
out of a set that has none, leaves the set as it is. -/
theorem reached_members (start : List String) (changes : List Change) :
    let s := reached start changes
    (s.keys = s.toList.map pathKey ∧ s.keys.Nodup) ∧
    (afterSteps (history start changes) = s ∧
      ∃ entries, Entries (history start changes) entries) ∧
    (∀ path, pathKey path ∈ s.keys → (Change.add path).carryOut s = (.ok none, s)) ∧
    s.size = (s.toList.map pathKey).toFinset.card ∧
    ∀ (c : Change) (e : Refusal),
      ((c.carryOut s).1 = .error e ↔
        (∃ path, c = .remove path ∧ e = .absent path ∧ pathKey path ∉ s.keys) ∨
          (c = .pop ∧ e = .noMember ∧ s.toList = []) ∨
          (c = .differenceUpdateOwn ∧ e = .disturbed ∧ s.toList ≠ [])) ∧
      ((c.carryOut s).1 = .error e → e.name = "KeyError" → (c.carryOut s).2 = s) := by
  intro s
  refine ⟨⟨s.keys_eq, s.keys_nodup⟩, ⟨afterSteps_history start changes, exists_entries _⟩, ?_, ?_,
    fun c e => ⟨carryOut_eq_error_iff, carryOut_snd_of_error⟩⟩
  · intro path there
    exact congrArg (Prod.mk _) (insert_of_mem_keys there)
  · rw [← keys_eq, List.toFinset_card_of_nodup s.keys_nodup]
    simp [size, keys]

/-- Two paths with different keys. -/
def spelledPaths : List String := ["Straße", "b"]

/-- Changes in which keys go and come back, some of them in other spellings. -/
def respelling : List Change := [
  .discard "STRASSE",
  .add "strasse",
  .add "Straße",
  .toggleAll (.sequence ["B", "c", "C"]),
  .pop,
  .add "STRASSE"]

/-- The member that comes back is spelled as it was added last, and comes last; the
spelling in which it was added while it was there does not count. To remove a path
that has gone is refused. -/
theorem reached_respelled :
    let s := reached spelledPaths respelling
    s.toList = ["c", "STRASSE"] ∧
    (∃ n m, n < m ∧ EnteredAt (history spelledPaths respelling) n "c" ∧
      EnteredAt (history spelledPaths respelling) m "STRASSE") ∧
    (Change.add "straße").carryOut s = (.ok none, s) ∧
    ((Change.remove "B").carryOut s).1 = .error (.absent "B") ∧
    ((Change.remove "B").carryOut s).2 = s := by
  intro s
  have members : s.toList = ["c", "STRASSE"] := by decide +kernel
  have there : pathKey "straße" ∈ s.keys := by decide +kernel
  have gone : pathKey "B" ∉ s.keys := by decide +kernel
  obtain ⟨-, ⟨same, entries, spelled, ordered, entered⟩, again, -, fails⟩ :=
    reached_members spelledPaths respelling
  obtain ⟨refused, unchanged⟩ := fails (.remove "B") (.absent "B")
  have absent := refused.2 (.inl ⟨"B", rfl, rfl, gone⟩)
  refine ⟨members, ?_, again _ there, absent, unchanged absent rfl⟩
  rw [same] at spelled
  obtain ⟨⟨n, _⟩, _, rfl, rfl, rest⟩ := List.map_eq_cons_iff.1 (spelled.trans members)
  obtain ⟨⟨m, _⟩, _, rfl, rfl, -⟩ := List.map_eq_cons_iff.1 rest
  have first := entered (n, "c") List.mem_cons_self
  have second := entered (m, "STRASSE") (List.mem_cons_of_mem _ List.mem_cons_self)
  exact ⟨n, m, List.rel_of_pairwise_cons ordered List.mem_cons_self, first, second⟩

end TreeSift.PathSet
