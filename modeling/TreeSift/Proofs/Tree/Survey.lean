/-
  TreeSift.Proofs.Tree.Survey — all places below a directory, by recursion.

  A survey lists the places of a directory and then, subdirectory by
  subdirectory from the last to the first, what is below each. It speaks of
  names only, so it does not depend on how the path of the directory is spelled.
  The walk over a pile of directories is the survey with paths put in
  (`walk_eq_located`): the pile always stands for the surveys that are still to
  be made, one after the other.

  A survey that succeeds holds every place below exactly once (`mem_survey`,
  `nodup_survey`), and one that fails has met an obstacle there (`survey_eq_error`).

    §1 Places and obstacles  `Tree.Place`, `Tree.Obstacle`, `Tree.located`
    §2 Surveys               `Tree.opened`, `Forest.deep`, `Tree.survey`
    §3 Walks                 `walkPile_eq_flatMapM`, `walk_eq_located`
    §4 Members               `mem_survey`, `nodup_survey`
    §5 Obstacles             `Obstacle.Stands`, `survey_eq_error`
-/
import TreeSift.Proofs.Fallible
import TreeSift.Proofs.Tree.Paths
import TreeSift.Tree.Walk

namespace TreeSift

namespace Tree

/-! ## §1 Places and obstacles -/

/-- A place below a directory: the names of the directories on the way, its own
name and what it is. -/
structure Place where
  above : List String
  name : String
  tree : Tree

/-- What a survey stops at: the names that lead to a place, and what is said
about the path of that place. -/
structure Obstacle where
  names : List String
  cause : String → ListingError

namespace Place

/-- The names that lead to a place. -/
def names (p : Place) : List String := p.above ++ [p.name]

/-- A place as seen from one directory further up. -/
def under (name : String) (p : Place) : Place := { p with above := name :: p.above }

/-- A place below a directory of this path, as an entry. -/
def entry (path : String) (p : Place) : Entry := ⟨p.name, pathTo path p.names, p.tree⟩

theorem names_ne_nil (p : Place) : p.names ≠ [] := by simp [names]

/-- Names that are not empty lead to a place. -/
theorem exists_of_names {ns : List String} (ne : ns ≠ []) (c : Tree) :
    ∃ p : Place, p.names = ns ∧ p.tree = c :=
  ⟨⟨ns.dropLast, ns.getLast ne, c⟩, List.dropLast_concat_getLast ne, rfl⟩

@[simp] theorem names_under (name : String) (p : Place) : (p.under name).names = name :: p.names :=
  rfl

theorem entry_under (path name : String) (p : Place) :
    (p.under name).entry path = p.entry (join path name) := rfl

end Place

namespace Obstacle

/-- An obstacle as seen from one directory further up. -/
def under (name : String) (o : Obstacle) : Obstacle := { o with names := name :: o.names }

/-- The error that an obstacle below a directory of this path causes. -/
def error (path : String) (o : Obstacle) : ListingError := o.cause (pathTo path o.names)

end Obstacle

/-- What is found below a directory, as seen from one directory further up. -/
def seenFrom (name : String) : Except Obstacle (List Place) → Except Obstacle (List Place)
  | .ok ps => .ok (ps.map (Place.under name))
  | .error o => .error (o.under name)

/-- What is found below a directory of this path, as entries. -/
def located (path : String) : Except Obstacle (List Place) → Except ListingError (List Entry)
  | .ok ps => .ok (ps.map (Place.entry path))
  | .error o => .error (o.error path)

theorem located_seenFrom (path name : String) (r : Except Obstacle (List Place)) :
    located path (seenFrom name r) = located (join path name) r := by
  cases r with
  | ok ps => simp [seenFrom, located, Place.entry_under]
  | error o => rfl

theorem located_append (path : String) (r s : Except Obstacle (List Place)) :
    located path (do return (← r) ++ (← s)) =
      do return (← located path r) ++ (← located path s) := by
  cases r with
  | error o => rfl
  | ok ps =>
    cases s with
    | error o => rfl
    | ok qs => exact congrArg Except.ok List.map_append

end Tree

/-! ## §2 Surveys -/

/-- The places at the top of a forest. -/
def Forest.tops : Forest → List Tree.Place
  | nil => []
  | place name kind below next => ⟨[], name, ⟨kind, below⟩⟩ :: next.tops

/-- The places in a directory, if it can be listed and their kinds are known. -/
def Tree.opened (t : Tree) : Except Tree.Obstacle (List Tree.Place) :=
  match t.kind with
  | .directory =>
    match t.below.tops.find? fun p => p.tree.kind = .loop with
    | none => .ok t.below.tops
    | some p => .error ⟨p.names, .loop⟩
  | .denied => .error ⟨[], .denied⟩
  | _ => .error ⟨[], .notDirectory⟩

/-- What is below the directories of a forest, from the last one to the first. -/
def Forest.deep : Forest → Except Tree.Obstacle (List Tree.Place)
  | nil => .ok []
  | place name kind below next => do
    let later ← next.deep
    if kind.isDirectory then
      let inner ← Tree.seenFrom name do return (← Tree.opened ⟨kind, below⟩) ++ (← below.deep)
      return later ++ inner
    else return later

/-- All places below a directory. -/
def Tree.survey (t : Tree) : Except Tree.Obstacle (List Tree.Place) := do
  return (← t.opened) ++ (← t.below.deep)

theorem Forest.deep_place (name : String) (kind : Kind) (below next : Forest) :
    (place name kind below next).deep =
      if kind.isDirectory then
        do return (← next.deep) ++ (← Tree.seenFrom name (Tree.survey ⟨kind, below⟩))
      else next.deep := by
  cases hk : kind.isDirectory <;> simp [deep, Tree.survey, hk]

/-! ## §3 Walks -/

namespace Tree

theorem entries_eq_map_tops (path : String) (f : Forest) :
    f.entries path = f.tops.map (Place.entry path) := by
  induction f with
  | nil => rfl
  | place name kind below next _ ih =>
    rw [Forest.entries, Forest.tops, List.map_cons, ih]
    rfl

/-- Opening a directory is listing it and asking for all kinds. -/
theorem located_opened (path : String) (t : Tree) :
    located path t.opened = do
      let found ← t.list path
      checkKinds found
      return found := by
  unfold opened list
  cases t.kind with
  | directory =>
    have asked : (t.below.entries path).find? (fun e => e.kind = .loop) =
        (t.below.tops.find? fun p => p.tree.kind = .loop).map (Place.entry path) := by
      rw [entries_eq_map_tops, List.find?_map]
      rfl
    simp only [Fallible.ok_bind, checkKinds, asked]
    cases t.below.tops.find? fun p => p.tree.kind = .loop with
    | none => simp [located, entries_eq_map_tops, Fallible.pure_eq_ok]
    | some p => rfl
  | denied => rfl
  | file => rfl
  | other => rfl
  | loop => rfl

/-- What a directory of a pile contributes to a walk. -/
def tour (d : String × Tree) : Except ListingError (List Entry) := located d.1 d.2.survey

/-- What is below the directories of a forest are the tours of these directories,
the last one first. -/
theorem located_deep (path : String) (f : Forest) :
    located path f.deep = (directories (f.entries path)).reverse.flatMapM tour := by
  induction f with
  | nil => rfl
  | place name kind below next _ ih =>
    rw [Forest.deep_place]
    cases hk : kind.isDirectory with
    | false =>
      rw [if_neg (by simp), ih]
      simp [directories, Forest.entries, Entry.kind, hk]
    | true =>
      have first : directories ((Forest.place name kind below next).entries path) =
          (join path name, ⟨kind, below⟩) :: directories (next.entries path) := by
        simp [directories, Forest.entries, Entry.kind, hk]
      rw [if_pos rfl, located_append, ih, located_seenFrom, first, List.reverse_cons,
        Fallible.flatMapM_append]
      simp [tour]

/-- A tour lists a directory, asks for all kinds, and goes on with the tours of
the subdirectories. -/
theorem tour_eq (path : String) (t : Tree) :
    tour (path, t) = do
      let found ← t.list path
      checkKinds found
      return found ++ (← (directories found).reverse.flatMapM tour) := by
  rw [tour, survey, located_append, located_opened, located_deep]
  cases hl : t.list path with
  | error e => rfl
  | ok found =>
    obtain rfl := list_eq_ok hl
    simp only [Fallible.ok_bind, bind_assoc, pure_bind]

/-- The tours that a pile stands for, one turn of the walk later. -/
theorem flatMapM_tour_cons (path : String) (t : Tree) (rest : List (String × Tree)) :
    ((path, t) :: rest).flatMapM tour = do
      let found ← t.list path
      checkKinds found
      return found ++ (← ((directories found).reverse ++ rest).flatMapM tour) := by
  simp only [List.flatMapM_cons, tour_eq, Fallible.flatMapM_append, bind_assoc, pure_bind,
    List.append_assoc]

/-- A pile stands for the tours of its directories, one after the other. -/
theorem walkPile_eq_flatMapM (pile : List (String × Tree)) :
    walkPile pile = pile.flatMapM tour := by
  fun_induction walkPile pile with
  | case1 => rfl
  | case2 path t rest e hl => rw [flatMapM_tour_cons, hl, Fallible.error_bind]
  | case3 path t rest found hl e hc =>
    rw [flatMapM_tour_cons, hl, Fallible.ok_bind, hc, Fallible.error_bind]
  | case4 path t rest found hl hc e hw ih =>
    rw [flatMapM_tour_cons, hl, Fallible.ok_bind, hc, Fallible.ok_bind, ← ih, hw,
      Fallible.error_bind]
  | case5 path t rest found hl hc more hw ih =>
    rw [flatMapM_tour_cons, hl, Fallible.ok_bind, hc, Fallible.ok_bind, ← ih, hw,
      Fallible.ok_bind, Fallible.pure_eq_ok]

/-- A walk is the survey of the directory with paths put in. -/
theorem walk_eq_located (path : String) (t : Tree) : walk path t = located path t.survey := by
  rw [walk, walkPile_eq_flatMapM, List.flatMapM_cons, List.flatMapM_nil]
  simp [tour]

/-! ## §4 Members -/

/-- A directory that has been opened could be listed. -/
theorem opened_eq_ok {t : Tree} {ps : List Place} (h : t.opened = .ok ps) :
    t.kind = .directory ∧ ps = t.below.tops := by
  unfold opened at h
  split at h
  · rename_i hk
    split at h
    · exact ⟨hk, (Except.ok.inj h).symm⟩
    · exact absurd h (by simp)
  · exact absurd h (by simp)
  · exact absurd h (by simp)

theorem survey_eq_ok {t : Tree} {ps : List Place} (h : t.survey = .ok ps) :
    t.kind = .directory ∧ ∃ more, t.below.deep = .ok more ∧ ps = t.below.tops ++ more := by
  obtain ⟨found, ho, h⟩ := Fallible.bind_eq_ok.1 h
  obtain ⟨more, hd, h⟩ := Fallible.bind_eq_ok.1 h
  obtain ⟨hk, rfl⟩ := opened_eq_ok ho
  exact ⟨hk, more, hd, (Except.ok.inj h).symm⟩

theorem seenFrom_eq_ok {name : String} {r : Except Obstacle (List Place)} {ps : List Place}
    (h : seenFrom name r = .ok ps) : ∃ qs, r = .ok qs ∧ ps = qs.map (Place.under name) := by
  cases r with
  | ok qs => exact ⟨qs, rfl, (Except.ok.inj h).symm⟩
  | error o => exact absurd h (by simp [seenFrom])

/-- The first place of a directory has its name, and the others are found as if
it were not there. -/
theorem at?_place (name n : String) (kind : Kind) (below next : Forest) (rest : List String) :
    at? ⟨.directory, .place name kind below next⟩ (n :: rest) =
      if name = n then at? ⟨kind, below⟩ rest else at? ⟨.directory, next⟩ (n :: rest) := by
  simp only [at?_cons, child?, Kind.isDirectory, if_true, Forest.find?]
  split <;> rfl

theorem at?_fresh {f : Forest} {name : String} (fresh : name ∉ f.names) (rest : List String) :
    at? ⟨.directory, f⟩ (name :: rest) = none := by
  simp [at?_cons, child?, Kind.isDirectory, Forest.find?_eq_none fresh]

theorem at?_noForest (p : Place) : at? ⟨.directory, .nil⟩ p.names = none := by
  obtain ⟨name, rest, h⟩ := List.exists_cons_of_ne_nil p.names_ne_nil
  rw [h, at?_fresh (by simp [Forest.names])]

/-- Nothing is below what is no directory. -/
theorem at?_of_not_directory {t : Tree} (h : t.kind.isDirectory = false) (p : Place) :
    t.at? p.names = none := by
  obtain ⟨name, rest, hp⟩ := List.exists_cons_of_ne_nil p.names_ne_nil
  rw [hp, at?_cons, child?, h]
  rfl

theorem mem_map_under {name first n : String} {rest : List String} {t : Tree} {qs : List Place} :
    ⟨first :: rest, n, t⟩ ∈ qs.map (Place.under name) ↔ name = first ∧ ⟨rest, n, t⟩ ∈ qs := by
  rw [List.mem_map]
  constructor
  · rintro ⟨q, hq, heq⟩
    simp only [Place.under, Place.mk.injEq, List.cons.injEq] at heq
    obtain ⟨⟨hname, rfl⟩, rfl, rfl⟩ := heq
    exact ⟨hname, hq⟩
  · rintro ⟨rfl, hq⟩
    exact ⟨_, hq, rfl⟩

/-- What is at the top of a directory and what is deeper together are what can be
reached from it. -/
theorem mem_survey_of {t : Tree} {ps : List Place} (h : t.survey = .ok ps)
    (top : ∀ p, p ∈ t.below.tops ↔ p.above = [] ∧ at? ⟨.directory, t.below⟩ p.names = some p.tree)
    (deeper : ∀ more, t.below.deep = .ok more →
      ∀ p, p ∈ more ↔ p.above ≠ [] ∧ at? ⟨.directory, t.below⟩ p.names = some p.tree)
    (p : Place) : p ∈ ps ↔ t.at? p.names = some p.tree := by
  obtain ⟨hk, more, hd, rfl⟩ := survey_eq_ok h
  have ht : t = ⟨.directory, t.below⟩ := by rw [← hk]
  rw [List.mem_append, top, deeper more hd, ← or_and_right, ← ht]
  exact and_iff_right (Classical.em _)

end Tree

namespace Forest

open Tree (at?)

theorem mem_tops {f : Forest} (wf : f.WellFormed) (p : Tree.Place) :
    p ∈ f.tops ↔ p.above = [] ∧ at? ⟨.directory, f⟩ p.names = some p.tree := by
  induction f with
  | nil => simp [tops, Tree.at?_noForest]
  | place name kind below next _ ih =>
    obtain ⟨-, fresh, -, wfNext⟩ := wf
    obtain ⟨above, n, t⟩ := p
    rw [tops, List.mem_cons, ih wfNext]
    cases above with
    | cons first rest => simp
    | nil =>
      simp only [Tree.Place.names, List.nil_append, true_and, Tree.at?_place]
      by_cases hn : name = n
      · subst hn
        simp [Tree.at?_fresh fresh, eq_comm]
      · simp [hn, Ne.symm hn]

theorem nodup_tops {f : Forest} (wf : f.WellFormed) : (f.tops.map Tree.Place.names).Nodup := by
  induction f with
  | nil => exact List.nodup_nil
  | place name kind below next _ ih =>
    obtain ⟨-, fresh, -, wfNext⟩ := wf
    rw [tops, List.map_cons, List.nodup_cons]
    refine ⟨fun hmem => ?_, ih wfNext⟩
    obtain ⟨p, hp, heq⟩ := List.mem_map.1 hmem
    have found := ((mem_tops wfNext p).1 hp).2
    rw [heq] at found
    exact absurd found (by simp [Tree.Place.names, Tree.at?_fresh fresh])

theorem mem_deep {f : Forest} (wf : f.WellFormed) {ps : List Tree.Place} (h : f.deep = .ok ps)
    (p : Tree.Place) : p ∈ ps ↔ p.above ≠ [] ∧ at? ⟨.directory, f⟩ p.names = some p.tree := by
  induction f generalizing ps p with
  | nil =>
    obtain rfl := Except.ok.inj h
    simp [Tree.at?_noForest]
  | place name kind below next ihBelow ihNext =>
    obtain ⟨-, fresh, wfBelow, wfNext⟩ := wf
    rw [deep_place] at h
    obtain ⟨above, n, t⟩ := p
    split at h
    · obtain ⟨later, hl, h⟩ := Fallible.bind_eq_ok.1 h
      obtain ⟨inner, hi, h⟩ := Fallible.bind_eq_ok.1 h
      obtain rfl := Except.ok.inj h
      obtain ⟨qs, hs, rfl⟩ := Tree.seenFrom_eq_ok hi
      have inside := Tree.mem_survey_of hs (mem_tops wfBelow) fun more hm => ihBelow wfBelow hm
      rw [List.mem_append, ihNext wfNext hl]
      cases above with
      | nil => simp [Tree.Place.under]
      | cons first rest =>
        rw [Tree.mem_map_under, inside]
        simp only [Tree.Place.names, List.cons_append, Tree.at?_place]
        by_cases hn : name = first
        · subst hn
          simp [Tree.at?_fresh fresh]
        · simp [hn]
    · rename_i hk
      rw [ihNext wfNext h]
      cases above with
      | nil => simp
      | cons first rest =>
        simp only [Tree.Place.names, List.cons_append, Tree.at?_place]
        by_cases hn : name = first
        · subst hn
          have nothing := Tree.at?_of_not_directory (t := ⟨kind, below⟩) (by simpa using hk)
            ⟨rest, n, t⟩
          simp only [Tree.Place.names] at nothing
          simp [Tree.at?_fresh fresh, nothing]
        · simp [hn]

end Forest

namespace Tree

/-- A survey that succeeds holds exactly the places that can be reached. -/
theorem mem_survey {t : Tree} (wf : t.WellFormed) {ps : List Place} (h : t.survey = .ok ps)
    (p : Place) : p ∈ ps ↔ t.at? p.names = some p.tree :=
  mem_survey_of h (Forest.mem_tops wf) (fun _ hd => Forest.mem_deep wf hd) p

/-- Places are told apart by their names. -/
theorem Place.above_eq {p q : Place} (h : p.names = q.names) : p.above = q.above :=
  (List.append_inj' h rfl).1

theorem nodup_survey_of {t : Tree} (wf : t.WellFormed) {ps : List Place} (h : t.survey = .ok ps)
    (deeper : ∀ more, t.below.deep = .ok more → (more.map Place.names).Nodup) :
    (ps.map Place.names).Nodup := by
  obtain ⟨-, more, hd, rfl⟩ := survey_eq_ok h
  rw [List.map_append, List.nodup_append]
  refine ⟨Forest.nodup_tops wf, deeper more hd, ?_⟩
  intro ns hns ms hms heq
  obtain ⟨p, hp, rfl⟩ := List.mem_map.1 hns
  obtain ⟨q, hq, rfl⟩ := List.mem_map.1 hms
  have top : p.above = [] := ((Forest.mem_tops wf p).1 hp).1
  have deep : q.above ≠ [] := ((Forest.mem_deep wf hd q).1 hq).1
  exact deep (Place.above_eq heq ▸ top)

end Tree

namespace Forest

open Tree (at?)

theorem nodup_deep {f : Forest} (wf : f.WellFormed) {ps : List Tree.Place} (h : f.deep = .ok ps) :
    (ps.map Tree.Place.names).Nodup := by
  induction f generalizing ps with
  | nil =>
    obtain rfl := Except.ok.inj h
    exact List.nodup_nil
  | place name kind below next ihBelow ihNext =>
    obtain ⟨-, fresh, wfBelow, wfNext⟩ := wf
    rw [deep_place] at h
    split at h
    · obtain ⟨later, hl, h⟩ := Fallible.bind_eq_ok.1 h
      obtain ⟨inner, hi, h⟩ := Fallible.bind_eq_ok.1 h
      obtain rfl := Except.ok.inj h
      obtain ⟨qs, hs, rfl⟩ := Tree.seenFrom_eq_ok hi
      have inside : (qs.map Tree.Place.names).Nodup :=
        Tree.nodup_survey_of (t := ⟨kind, below⟩) wfBelow hs fun more hm => ihBelow wfBelow hm
      have shifted : (qs.map (Tree.Place.under name)).map Tree.Place.names =
          (qs.map Tree.Place.names).map (name :: ·) := by
        simp [List.map_map, Function.comp_def]
      rw [List.map_append, List.nodup_append, shifted]
      refine ⟨ihNext wfNext hl, ?_, ?_⟩
      · exact List.Pairwise.map _ (fun _ _ hne heq => hne (List.cons.inj heq).2) inside
      · -- A place beside the directory is not reached through its name.
        intro ns hns ms hms heq
        obtain ⟨p, hp, rfl⟩ := List.mem_map.1 hns
        obtain ⟨more, -, rfl⟩ := List.mem_map.1 hms
        have reached := ((mem_deep wfNext hl p).1 hp).2
        rw [heq, Tree.at?_fresh fresh] at reached
        exact absurd reached (by simp)
    · exact ihNext wfNext h

end Forest

namespace Tree

/-- A survey holds no place twice. -/
theorem nodup_survey {t : Tree} (wf : t.WellFormed) {ps : List Place} (h : t.survey = .ok ps) :
    (ps.map Place.names).Nodup :=
  nodup_survey_of wf h fun _ hd => Forest.nodup_deep wf hd

end Tree

/-! ## §5 Obstacles -/

namespace Tree

/-- An obstacle stands below a directory: its names lead to a directory that cannot
be listed, or to a place whose kind cannot be found out. -/
def Obstacle.Stands (here : Tree) (o : Obstacle) : Prop :=
  ∃ c, here.at? o.names = some c ∧
    (c.kind = .denied ∧ o.cause = .denied ∨ c.kind = .loop ∧ o.cause = .loop)

theorem opened_eq_error {t : Tree} (wf : t.WellFormed) (dir : t.kind.isDirectory = true)
    {o : Obstacle} (h : t.opened = .error o) : o.Stands t := by
  unfold opened at h
  split at h
  · rename_i hk
    split at h
    · exact absurd h (by simp)
    · rename_i p hp
      obtain rfl := Except.error.inj h
      have loop : p.tree.kind = .loop := by simpa using List.find?_some hp
      have hat := ((Forest.mem_tops wf p).1 (List.mem_of_find?_eq_some hp)).2
      rw [show t = ⟨.directory, t.below⟩ by rw [← hk]]
      exact ⟨p.tree, hat, .inr ⟨loop, rfl⟩⟩
  · rename_i hk
    obtain rfl := Except.error.inj h
    exact ⟨t, rfl, .inl ⟨hk, rfl⟩⟩
  · rename_i no more
    cases hk : t.kind <;> simp_all [Kind.isDirectory]

/-- What a survey stops at is met when the directory is opened or deeper down. -/
theorem survey_eq_error_of {t : Tree} (wf : t.WellFormed) (dir : t.kind.isDirectory = true)
    {o : Obstacle} (h : t.survey = .error o)
    (deeper : t.below.deep = .error o → o.Stands ⟨.directory, t.below⟩) : o.Stands t := by
  cases ho : t.opened with
  | error p =>
    rw [survey, ho] at h
    obtain rfl := Except.error.inj h
    exact opened_eq_error wf dir ho
  | ok tops =>
    have hk := (opened_eq_ok ho).1
    rw [show t = ⟨.directory, t.below⟩ by rw [← hk]]
    cases hd : t.below.deep with
    | ok more =>
      rw [survey, ho, hd] at h
      exact absurd h (by simp [Fallible.pure_eq_ok])
    | error p =>
      rw [survey, ho, hd] at h
      obtain rfl := Except.error.inj h
      exact deeper hd

/-- What stands beside the first place of a directory stands there with it. -/
theorem Obstacle.Stands.beside {name : String} {kind : Kind} {below next : Forest} {o : Obstacle}
    (fresh : name ∉ next.names) (ne : o.names ≠ []) (h : o.Stands ⟨.directory, next⟩) :
    o.Stands ⟨.directory, .place name kind below next⟩ := by
  obtain ⟨c, hat, what⟩ := h
  obtain ⟨n, rest, hn⟩ := List.exists_cons_of_ne_nil ne
  refine ⟨c, ?_, what⟩
  rw [hn] at hat ⊢
  have other : name ≠ n := by
    rintro rfl
    rw [at?_fresh fresh] at hat
    exact absurd hat (by simp)
  rw [at?_place, if_neg other]
  exact hat

/-- What stands below the first place of a directory stands below the directory. -/
theorem Obstacle.Stands.within {name : String} {kind : Kind} {below next : Forest}
    {o : Obstacle} (h : o.Stands ⟨kind, below⟩) :
    (o.under name).Stands ⟨.directory, .place name kind below next⟩ := by
  obtain ⟨c, hat, what⟩ := h
  refine ⟨c, ?_, what⟩
  rw [under, at?_place, if_pos rfl]
  exact hat

end Tree

namespace Forest

theorem deep_eq_error {f : Forest} (wf : f.WellFormed) {o : Tree.Obstacle}
    (h : f.deep = .error o) : o.names ≠ [] ∧ o.Stands ⟨.directory, f⟩ := by
  induction f generalizing o with
  | nil => exact absurd h (by simp [deep])
  | place name kind below next ihBelow ihNext =>
    obtain ⟨-, fresh, wfBelow, wfNext⟩ := wf
    rw [deep_place] at h
    split at h
    · rename_i hk
      cases hl : next.deep with
      | error p =>
        rw [hl] at h
        obtain rfl := Except.error.inj h
        obtain ⟨ne, stands⟩ := ihNext wfNext hl
        exact ⟨ne, stands.beside fresh ne⟩
      | ok later =>
        cases hs : Tree.survey ⟨kind, below⟩ with
        | ok inner =>
          rw [hl, hs] at h
          exact absurd h (by simp [Tree.seenFrom, Fallible.pure_eq_ok])
        | error p =>
          rw [hl, hs] at h
          obtain rfl := Except.error.inj h
          have inside := Tree.survey_eq_error_of (t := ⟨kind, below⟩) wfBelow hk hs
            fun hd => (ihBelow wfBelow hd).2
          exact ⟨List.cons_ne_nil _ _, inside.within⟩
    · obtain ⟨ne, stands⟩ := ihNext wfNext h
      exact ⟨ne, stands.beside fresh ne⟩

end Forest

namespace Tree

/-- A survey of a directory stops only where a directory cannot be listed or the
kind of a place cannot be found out. -/
theorem survey_eq_error {t : Tree} (wf : t.WellFormed) (dir : t.kind.isDirectory = true)
    {o : Obstacle} (h : t.survey = .error o) : o.Stands t :=
  survey_eq_error_of wf dir h fun hd => (Forest.deep_eq_error wf hd).2

end Tree

end TreeSift
