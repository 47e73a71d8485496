/-
  TreeSift.Proofs.Regex.ReadSequences — a whole pattern and its escaped form side by side.

  Sequences, alternatives and groups call each other, and every call spends a step,
  so they are followed together, by induction on the steps. A set in the middle
  of a pattern is followed only if no range of it begins or ends at a slash, while
  all that is known is that the pattern as read has no such range. No reader drops
  a part of a set on the way to its result, and that carries the condition back to
  the set.

    §1 Parts kept    `Keeps`, `ClearNodes`
    §2 Groups        `ReadAlong`, `follows_closing`, `follows_readGroup`
    §3 Steps         `follows_readSequence`, `readAlong`
    §4 Patterns      `follows_readPattern`
-/
import TreeSift.Proofs.Regex.ReadParts

namespace TreeSift.Regex.Reader

variable {s t : ReaderState}

/-! ## §1 Parts kept -/

/-- The second sequence has all parts of sets that the first one has. -/
def Keeps (nodes result : List Node) : Prop := nodes.flatMap Node.items ⊆ result.flatMap Node.items

theorem Keeps.cons {nodes result : List Node} {n : Node} (keeps : Keeps (n :: nodes) result) :
    Keeps nodes result := by
  refine List.Subset.trans ?_ keeps
  rw [List.flatMap_cons]
  exact List.subset_append_right _ _

theorem keeps_cons (n : Node) (nodes : List Node) : Keeps nodes (n :: nodes) :=
  Keeps.cons (List.Subset.refl _)

theorem items_repeatBody (n : Node) : (repeatBody n).items = n.items := by
  unfold repeatBody
  split <;> rfl

theorem yields_readRepeat (quantifier : Char) (here : Nat) (nodes : List Node) :
    Yields (Keeps nodes) (readRepeat quantifier here nodes) := by
  refine .bind fun bounds => ?_
  cases bounds with
  | none => exact .pure (keeps_cons _ _)
  | some bounds =>
    cases nodes with
    | nil => exact .refused fun _ _ => failAt_ne_ok
    | cons last before =>
      have repeated : Yields (Keeps (last :: before))
          (do return .repeated (← readGreed) bounds.1 bounds.2 (repeatBody last) :: before) := by
        refine .bind fun greed => .pure ?_
        rw [Keeps, List.flatMap_cons, List.flatMap_cons, Node.items, items_repeatBody]
        exact List.Subset.refl _
      cases last with
      | atom a =>
        cases a with
        | anchor => exact .refused fun _ _ => failAt_ne_ok
        | _ => exact repeated
      | repeated => exact .refused fun _ _ => failAt_ne_ok
      | _ => exact repeated

theorem yields_readGroup (verbose leading : Bool) (opening : Nat) (nodes : List Node)
    (steps : Nat) :
    Yields (fun r => Keeps nodes r.2) (readGroup verbose leading opening nodes steps) := by
  cases steps with
  | zero => exact .refused nofun
  | succ steps =>
    have returned (verbose : Bool) :
        Yields (fun r : Bool × List Node => Keeps nodes r.2) (return (verbose, nodes)) :=
      .pure (List.Subset.refl _)
    have closed (n : Node) : Yields (fun r : Bool × List Node => Keeps nodes r.2)
        (do closeParenthesis opening; return (verbose, n :: nodes)) :=
      .bind fun _ => .pure (keeps_cons n nodes)
    unfold readGroup
    refine .bind fun kind => ?_
    cases kind with
    | comment => exact .bind fun _ => .bind fun _ => returned _
    | reference a => exact .pure (keeps_cons _ _)
    | flags =>
      exact .ite (fun _ => .bind fun _ => .bind fun _ => returned _)
        fun _ => .bind fun _ => returned _
    | look behind negated =>
      refine .bind fun _ => .ite (fun _ => .bind fun _ => .bind fun _ => ?_)
        fun _ => .bind fun _ => ?_
      iterate 2 exact .ite (fun _ => .bind fun _ => closed _) fun _ => closed _
    | condition =>
      refine .bind fun _ => .bind fun _ => .bind fun _ => .bind fun _ => ?_
      refine .ite (fun _ => .bind fun _ => .bind fun _ => ?_) fun _ => .bind fun _ => closed _
      exact .ite (fun _ => .bind fun _ => .bind fun _ => closed _) fun _ => .bind fun _ => closed _
    | capture name =>
      exact .bind fun _ => .bind fun _ => .bind fun _ => .bind fun _ => .pure (keeps_cons _ _)
    | atomic => exact .bind fun _ => closed _
    | plain added removed => exact .bind fun _ => closed _

theorem yields_readSequence (verbose leading : Bool) (nodes : List Node) (steps : Nat) :
    Yields (Keeps nodes) (readSequence verbose leading nodes steps) := by
  induction steps generalizing verbose leading nodes with
  | zero => exact .refused nofun
  | succ steps ih =>
    have more (n : Node) :
        Yields (Keeps nodes) (readSequence verbose leading (n :: nodes) steps) :=
      (ih verbose leading (n :: nodes)).mono fun _ => Keeps.cons
    unfold readSequence
    refine .bind fun here => .bind fun next => ?_
    cases next with
    | none => exact .pure (items_unpack nodes)
    | some token =>
      cases token with
      | escape c => exact .bind fun _ => .bind fun a => more _
      | char c =>
        refine .ite (fun _ => .pure (items_unpack nodes)) fun _ => .bind fun _ => ?_
        refine .ite (fun _ => ih verbose leading nodes) fun _ => ?_
        refine .ite (fun _ => .bind fun _ => .bind fun _ => ih verbose leading nodes) fun _ => ?_
        split
        · exact .bind fun a => more _
        · intro s result s' run
          obtain ⟨r, mid, group, last⟩ := bind_run.mp run
          have kept := yields_readGroup verbose leading here nodes steps s r mid group
          exact List.Subset.trans kept (ih _ _ _ mid result s' last)
        iterate 3 exact more _
        · refine .ite (fun _ => ?_) fun _ => more _
          intro s result s' run
          obtain ⟨r, mid, repeated, last⟩ := bind_run.mp run
          have kept := yields_readRepeat _ _ nodes s r mid repeated
          exact List.Subset.trans kept (ih _ _ _ mid result s' last)

theorem yields_readAlternatives (verbose outermost : Bool) (items : List (List Node))
    (steps : Nat) :
    Yields (fun r => ∀ alternative ∈ items, Keeps alternative r)
      (readAlternatives verbose outermost items steps) := by
  induction steps generalizing verbose items with
  | zero => exact .refused nofun
  | succ steps ih =>
    unfold readAlternatives
    refine .bind fun item => .bind fun another => .ite (fun _ => .bind fun _ => ?_) fun _ => ?_
    · exact (ih _ (item :: items)).mono fun _ keeps alternative inside =>
        keeps alternative (List.mem_cons_of_mem _ inside)
    · refine .pure fun alternative inside => items_joinAlternatives alternative ?_
      exact List.mem_reverse.mpr (List.mem_cons_of_mem _ inside)

/-- Whether no range in a sequence begins or ends at a slash. -/
def ClearNodes (nodes : List Node) : Prop := ∀ item ∈ nodes.flatMap Node.items, ClearOfSlash item

theorem ClearNodes.of_keeps {nodes result : List Node} (clear : ClearNodes result)
    (keeps : Keeps nodes result) : ClearNodes nodes :=
  fun item inside => clear item (keeps inside)

theorem ClearNodes.body {n : Node} {nodes body : List Node} (clear : ClearNodes (n :: nodes))
    (holds : (Node.ofList body).items ⊆ n.items) : ClearNodes body := by
  intro item inside
  rw [← Node.items_ofList] at inside
  exact clear item (List.mem_append_left _ (holds inside))

/-! ## §2 Groups -/

/-- After a group, the same view of blanks and the same sequence on both sides. -/
def SameGroup (a b : Bool × List Node) : Prop := b.1 = a.1 ∧ TurnedNodes a.2 b.2

/-- With a number of steps, or more on the other side, sequences and groups are read
side by side. -/
structure ReadAlong (steps : Nat) : Prop where
  alternatives : ∀ {s t : ReaderState}, s.Beside t → ∀ verbose outermost items {steps' : Nat},
    steps ≤ steps' → FollowsIf s t ClearNodes TurnedNodes
      (readAlternatives verbose outermost items steps)
      (readAlternatives verbose outermost (items.map (List.map Node.turned)) steps')
  sequence : ∀ {s t : ReaderState}, s.Beside t → ∀ verbose leading nodes {steps' : Nat},
    steps ≤ steps' → FollowsIf s t ClearNodes TurnedNodes
      (readSequence verbose leading nodes steps)
      (readSequence verbose leading (nodes.map Node.turned) steps')
  group : ∀ {s t : ReaderState}, s.Beside t → ∀ verbose leading (opening opening' : Nat) nodes
    {steps' : Nat}, steps ≤ steps' → FollowsIf s t (fun r => ClearNodes r.2) SameGroup
      (readGroup verbose leading opening nodes steps)
      (readGroup verbose leading opening' (nodes.map Node.turned) steps')

section

variable (verbose : Bool) (opening opening' : Nat) (nodes : List Node)

theorem yields_closing {n : Node} {body : List Node} (holds : (Node.ofList body).items ⊆ n.items) :
    Yields (fun r : Bool × List Node => ClearNodes r.2 → ClearNodes body)
      (do closeParenthesis opening; return (verbose, n :: nodes)) :=
  .bind fun _ => .pure fun clear => clear.body holds

theorem follows_closing (beside : s.Beside t) (n : Node) :
    FollowsIf s t (fun r => ClearNodes r.2) SameGroup
      (do closeParenthesis opening; return (verbose, n :: nodes))
      (do closeParenthesis opening'; return (verbose, n.turned :: nodes.map Node.turned)) :=
  .bind (follows_closeParenthesis beside opening opening') fun _ beside _ =>
    .pure beside fun _ => ⟨rfl, rfl⟩

variable {steps steps' : Nat} (along : ReadAlong steps) (le : steps ≤ steps')
include along le

/-- A group whose node holds nothing but its content. -/
theorem follows_enclosed (beside : s.Beside t) (inner : Bool) (wrap : Node → Node)
    (holds : ∀ n, (wrap n).items = n.items) (turned : ∀ n, (wrap n).turned = wrap n.turned) :
    FollowsIf s t (fun r => ClearNodes r.2) SameGroup
      (do
        let body ← readAlternatives inner false [] steps
        closeParenthesis opening
        return (verbose, wrap (Node.ofList body) :: nodes))
      (do
        let body ← readAlternatives inner false [] steps'
        closeParenthesis opening'
        return (verbose, wrap (Node.ofList body) :: nodes.map Node.turned)) := by
  refine .bindIf (along.alternatives beside inner false [] le)
    (fun body => yields_closing verbose opening nodes (holds _ ▸ List.Subset.refl _))
    fun {body _ _ _} same beside _ => ?_
  rw [same, Node.ofList_turned, ← turned]
  exact follows_closing verbose opening opening' nodes beside _

/-- A look, which may set the limit for references within it, and takes it back then. -/
theorem follows_look (beside : s.Beside t) (behind negated limits : Bool) :
    FollowsIf s t (fun r => ClearNodes r.2) SameGroup
      (do
        let body ← readAlternatives verbose false [] steps
        if limits then modify fun s => { s with lookLimit := none }
        closeParenthesis opening
        return (verbose, .look behind negated (Node.ofList body) :: nodes))
      (do
        let body ← readAlternatives verbose false [] steps'
        if limits then modify fun s => { s with lookLimit := none }
        closeParenthesis opening'
        return (verbose, .look behind negated (Node.ofList body) :: nodes.map Node.turned)) := by
  have closing {s t : ReaderState} (beside : s.Beside t) (body : List Node) :=
    follows_closing verbose opening opening' nodes beside (.look behind negated (Node.ofList body))
  refine .bindIf (along.alternatives beside verbose false [] le) (fun body => ?_)
    fun {body _ _ _} same beside _ => ?_
  · exact .ite (fun _ => .bind fun _ => yields_closing _ _ _ (List.Subset.refl _))
      fun _ => yields_closing _ _ _ (List.Subset.refl _)
  · rw [same, Node.ofList_turned]
    refine .ite Iff.rfl (fun _ => ?_) fun _ => closing beside body
    exact .bind (follows_modify { beside with lookLimit := rfl }) fun _ beside _ =>
      closing beside body

/-- The branches of a condition on a group, of which the second may be left out. -/
theorem follows_condition (beside : s.Beside t) (index : Nat) :
    FollowsIf s t (fun r => ClearNodes r.2) SameGroup
      (do
        let yes ← readSequence verbose false [] steps
        let no ←
          if ← accept '|' then
            let no ← readSequence verbose false [] steps
            if (← peek) == some (.char '|') then fail .thirdBranch 0
            pure no
          else pure []
        closeParenthesis opening
        return (verbose, .condition index (Node.ofList yes) (Node.ofList no) :: nodes))
      (do
        let yes ← readSequence verbose false [] steps'
        let no ←
          if ← accept '|' then
            let no ← readSequence verbose false [] steps'
            if (← peek) == some (.char '|') then fail .thirdBranch 0
            pure no
          else pure []
        closeParenthesis opening'
        return (verbose, .condition index (Node.ofList yes) (Node.ofList no) ::
          nodes.map Node.turned)) := by
  have closing {s t : ReaderState} (beside : s.Beside t) (yes no : List Node) :=
    follows_closing verbose opening opening' nodes beside
      (.condition index (Node.ofList yes) (Node.ofList no))
  simp only [pure_bind]
  refine .bindIf (along.sequence beside verbose false [] le) (fun yes => ?_)
    fun {yes _ _ _} same beside _ => ?_
  · refine .bind fun _ => .ite (fun _ => .bind fun _ => .bind fun _ => ?_) fun _ => ?_
    · exact .ite (fun _ => .bind fun _ => yields_closing _ _ _ (List.subset_append_left _ _))
        fun _ => yields_closing _ _ _ (List.subset_append_left _ _)
    · exact yields_closing _ _ _ (List.subset_append_left _ _)
  rw [same]
  refine .bindSame (follows_accept beside (by decide)) fun _ _ _ beside => ?_
  refine .ite Iff.rfl (fun _ => ?_) fun _ => ?_
  · refine .bindIf (along.sequence beside verbose false [] le) (fun no => ?_)
      fun {no _ _ _} same beside _ => ?_
    · refine .bind fun _ => .ite (fun _ => .bind fun _ => ?_) fun _ => ?_
      iterate 2 exact yields_closing _ _ _ (List.subset_append_right _ _)
    rw [same, Node.ofList_turned, Node.ofList_turned]
    refine .bind (follows_peek beside) fun next beside _ => ?_
    exact .ite (next.eq_char_iff (by decide)) (fun _ => .refused nofun)
      fun _ => closing beside yes no
  · rw [Node.ofList_turned]
    exact closing beside yes []

theorem follows_readGroup (beside : s.Beside t) (leading : Bool) :
    FollowsIf s t (fun r => ClearNodes r.2) SameGroup
      (readGroup verbose leading opening nodes (steps + 1))
      (readGroup verbose leading opening' (nodes.map Node.turned) (steps' + 1)) := by
  unfold readGroup
  refine .bind (follows_readOpening beside) fun {kind kind' s t} same beside _ => ?_
  cases kind with
  | comment =>
    subst same
    refine .bind (follows_room beside) fun rooms beside _ => ?_
    exact .bind (follows_skipComment beside opening opening' rooms.2) fun _ beside _ =>
      .pure beside fun _ => ⟨rfl, rfl⟩
  | reference a =>
    subst same
    exact .pure beside fun _ => ⟨rfl, rfl⟩
  | flags =>
    subst same
    refine .ite (by rw [List.isEmpty_map]) (fun _ => .refused nofun) fun _ => ?_
    refine .bind (follows_get beside) fun states beside _ => .pure beside fun _ => ?_
    exact ⟨by rw [states.flags], rfl⟩
  | look behind negated =>
    subst same
    refine .bind (follows_get beside) fun {a b s t} states beside _ => ?_
    rw [states.lookLimit]
    have look {s t : ReaderState} (beside : s.Beside t) :=
      follows_look verbose opening opening' nodes along le beside behind negated
        (behind && a.lookLimit.isNone)
    refine .ite Iff.rfl (fun _ => ?_) fun _ => look beside
    refine .bind (follows_modify { beside with lookLimit := ?_ }) fun _ beside _ => look beside
    simp only [beside.widths]
  | condition =>
    subst same
    refine .bindSame (follows_readConditionGroup beside) fun index _ _ beside => ?_
    refine .bind (follows_checkLook beside index) fun _ beside _ => ?_
    exact follows_condition verbose opening opening' nodes along le beside index
  | capture name =>
    subst same
    refine .bindSame (follows_openGroup beside name) fun index _ _ beside => ?_
    refine .bindIf (along.alternatives beside verbose false [] le) (fun body => ?_)
      fun {body _ _ _} same beside _ => ?_
    · exact .bind fun _ => .bind fun _ => .pure fun clear => clear.body (List.Subset.refl _)
    rw [same, Node.ofList_turned]
    refine .bind (follows_closeParenthesis beside opening opening') fun _ beside _ => ?_
    refine .bind (follows_closeGroup beside index _) fun _ beside _ => ?_
    exact .pure beside fun _ => ⟨rfl, rfl⟩
  | atomic =>
    subst same
    exact follows_enclosed verbose opening opening' nodes along le beside verbose .atomic
      (fun _ => rfl) fun _ => rfl
  | plain added removed =>
    subst same
    exact follows_enclosed verbose opening opening' nodes along le beside
      (verboseWithin verbose added removed) (.group none added removed) (fun _ => rfl) fun _ => rfl

end

/-! ## §3 Steps -/

section

variable {steps steps' : Nat} (along : ReadAlong steps) (le : steps ≤ steps')
include along le

theorem follows_readAlternatives (beside : s.Beside t) (verbose outermost : Bool)
    (items : List (List Node)) :
    FollowsIf s t ClearNodes TurnedNodes (readAlternatives verbose outermost items (steps + 1))
      (readAlternatives verbose outermost (items.map (List.map Node.turned)) (steps' + 1)) := by
  unfold readAlternatives
  rw [List.isEmpty_map]
  refine .bindIf (along.sequence beside _ _ [] le) (fun item => ?_)
    fun {item item' s t} same beside _ => ?_
  · refine .bind fun _ => .ite (fun _ => .bind fun _ => ?_) fun _ => .pure ?_
    · exact (yields_readAlternatives _ _ (item :: items) steps).mono fun _ keeps clear =>
        clear.of_keeps (keeps item List.mem_cons_self)
    · exact fun clear => clear.of_keeps
        (items_joinAlternatives item (List.mem_reverse.mpr List.mem_cons_self))
  refine .bindSame (follows_accept beside (by decide)) fun a _ _ beside => ?_
  rw [same]
  refine .ite Iff.rfl (fun _ => ?_) fun _ => .pure beside fun _ => ?_
  · refine .bind (follows_get beside) fun {a b _ _} states beside _ => ?_
    rw [states.flags]
    exact along.alternatives beside _ _ (item :: items) le
  · rw [TurnedNodes, ← joinAlternatives_turned, ← List.map_cons, ← List.map_reverse]

theorem follows_readSequence (beside : s.Beside t) (verbose leading : Bool) (nodes : List Node) :
    FollowsIf s t ClearNodes TurnedNodes (readSequence verbose leading nodes (steps + 1))
      (readSequence verbose leading (nodes.map Node.turned) (steps' + 1)) := by
  have more (n : Node) {s t : ReaderState} (beside : s.Beside t) :
      FollowsIf s t ClearNodes TurnedNodes (readSequence verbose leading (n :: nodes) steps)
        (readSequence verbose leading (n.turned :: nodes.map Node.turned) steps') :=
    along.sequence beside verbose leading (n :: nodes) le
  have ended {s t : ReaderState} (beside : s.Beside t) : FollowsIf s t ClearNodes TurnedNodes
      (return unpack nodes) (return unpack (nodes.map Node.turned)) :=
    .pure beside fun _ => unpack_turned nodes
  unfold readSequence
  refine .bind (follows_position beside) fun {here here' s t} _ beside _ => ?_
  refine .bind (follows_peek beside) fun {a b _ _} same beside peeked => ?_
  cases peeked
  rw [same]
  cases next : s.cursor.next with
  | none => exact ended beside
  | some token =>
    cases token with
    | escape c =>
      refine .bind (follows_take beside) fun {a _ _ _} _ beside' ran => ?_
      have taken : a = some (.escape c) := by
        obtain ⟨_, -, rfl, -⟩ := take_run.mp ran
        exact next
      subst taken
      refine .bind (follows_readEscape beside' (harmless_of_take beside ran))
        fun same beside _ => ?_
      rw [same]
      exact more (.atom _) beside
    | char c =>
      have backslash : c ≠ '\\' := fun eq => beside.cursor.chars (by rw [next, eq])
      by_cases slash : c = '/'
      · -- The slash is read as itself, the escape on the other side as the backslash.
        subst slash
        have filler : (verbose && isFiller '/') = false := by cases verbose <;> rfl
        have comment : (verbose && decide ('/' = '#')) = false := by cases verbose <;> rfl
        simp only
        rw [if_neg (by decide)]
        refine .bind (follows_take beside) fun _ beside _ => ?_
        rw [filler, comment]
        exact more (.atom (.code 0x2F)) beside
      rw [Option.map_some, Token.escapedSlash_char slash]
      refine .ite Iff.rfl (fun _ => ended beside) fun _ => ?_
      refine .bind (follows_take beside) fun _ beside _ => ?_
      refine .ite Iff.rfl (fun _ => along.sequence beside verbose leading nodes le) fun _ => ?_
      refine .ite Iff.rfl (fun _ => ?_) fun _ => ?_
      · refine .bind (follows_room beside) fun rooms beside ran => ?_
        cases ran
        refine .bind (follows_skipLine beside (Cursor.within_room _) rooms.2) fun _ beside _ => ?_
        exact along.sequence beside verbose leading nodes le
      split
      · -- The set is kept by what follows, so its ranges are clear if the result is.
        refine .bindIf (follows_readSet beside) (fun a => ?_) fun same beside _ => ?_
        · exact (yields_readSequence _ _ _ steps).mono fun _ keeps clear item inside =>
            clear item (keeps (List.mem_append_left _ inside))
        · rw [same]
          exact more (.atom _) beside
      · refine .bindIf (along.group beside verbose leading here here' nodes le) (fun r => ?_)
          fun {r r' _ _} same beside _ => ?_
        · exact (yields_readSequence _ _ _ steps).mono fun _ keeps clear => clear.of_keeps keeps
        · obtain ⟨verbose', nodes'⟩ := r'
          obtain ⟨rfl, rfl⟩ := same
          exact along.sequence beside _ _ _ le
      iterate 3 exact more (.atom _) beside
      · refine .ite Iff.rfl (fun _ => ?_) fun _ => ?_
        · refine .bind (follows_readRepeat beside slash backslash here here' nodes)
            fun same beside _ => ?_
          rw [same]
          exact along.sequence beside verbose leading _ le
        · have plain := more (.atom (.code c.toNat)) beside
          rwa [turned_code slash backslash] at plain

end

theorem readAlong (steps : Nat) : ReadAlong steps := by
  induction steps with
  | zero =>
    constructor <;> intros
    iterate 3 exact .refused nofun
  | succ steps ih =>
    have one_less {steps' : Nat} (le : steps + 1 ≤ steps') :
        ∃ before, steps' = before + 1 ∧ steps ≤ before :=
      ⟨steps' - 1, (Nat.sub_one_add_one (Nat.ne_zero_of_lt le)).symm, Nat.le_sub_one_of_lt le⟩
    constructor
    · intro s t beside verbose outermost items steps' le
      obtain ⟨_, rfl, less⟩ := one_less le
      exact follows_readAlternatives ih less beside verbose outermost items
    · intro s t beside verbose leading nodes steps' le
      obtain ⟨_, rfl, less⟩ := one_less le
      exact follows_readSequence ih less beside verbose leading nodes
    · intro s t beside verbose leading opening opening' nodes steps' le
      obtain ⟨_, rfl, less⟩ := one_less le
      exact follows_readGroup verbose opening opening' nodes ih less beside leading

/-! ## §4 Patterns -/

theorem follows_checkAsked (beside : s.Beside t) :
    Follows s t (fun _ _ => True) checkAsked checkAsked := by
  refine .bind (follows_get beside) fun {a b _ _} states beside _ => ?_
  cases found : a.asked.find? fun entry => a.widths.length ≤ entry.1 with
  | some entry => exact .refused nofun
  | none =>
    have none' : (b.asked.find? fun entry => b.widths.length ≤ entry.1) = none := by
      refine List.find?_eq_none.mpr fun entry inside => ?_
      have number := List.mem_map_of_mem (f := Prod.fst) inside
      rw [states.asked] at number
      obtain ⟨entry', inside', same⟩ := List.mem_map.mp number
      rw [states.widths, ← same]
      exact List.find?_eq_none.mp found entry' inside'
    rw [none']
    exact .pure beside fun _ => trivial

/-- **A pattern and its escaped form are read as the same node**, but for the
separators, which are exchanged. -/
theorem follows_readPattern (beside : s.Beside t) :
    FollowsIf s t (fun n => ∀ item ∈ n.items, ClearOfSlash item) (fun a b => b = a.turned)
      readPattern readPattern := by
  refine .bind (follows_room beside) fun rooms beside _ => ?_
  refine .bindIf ((readAlong _).alternatives beside false true [] (by have := rooms.2; omega))
    (fun nodes => ?_) fun {nodes _ _ _} same beside _ => ?_
  · have ofList : Yields (fun n : Node => (∀ item ∈ n.items, ClearOfSlash item) → ClearNodes nodes)
        (return Node.ofList nodes) :=
      .pure fun clear item inside => clear item (by rwa [Node.items_ofList])
    refine .bind fun _ => .ite (fun _ => .bind fun _ => .bind fun _ => ?_)
      fun _ => .bind fun _ => ?_
    iterate 2
      exact .ite (fun _ => .bind fun _ => .bind fun _ => ofList) fun _ => .bind fun _ => ofList
  refine .bind (follows_get beside) fun {a b s t} states beside _ => ?_
  rw [states.flags]
  refine .ite Iff.rfl (fun _ => .refused nofun) fun _ => ?_
  refine .bind (follows_peek beside) fun {a b _ _} next beside _ => ?_
  refine .ite (by rw [next, Option.isSome_map]) (fun _ => .refused nofun) fun _ => ?_
  refine .bind (follows_checkAsked beside) fun _ beside _ => .pure beside fun _ => ?_
  rw [same, Node.ofList_turned]

end TreeSift.Regex.Reader
