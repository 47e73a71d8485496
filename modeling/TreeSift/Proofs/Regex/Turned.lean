/-
  TreeSift.Proofs.Regex.Turned — nodes with slash and backslash exchanged.

  Exchanging the two separators is its own inverse on characters, on the parts of
  a set and on nodes. So it goes through everything that is done to nodes by
  comparing them: whatever was equal stays equal, and nothing else becomes so.

    §1 Characters  `turn`, `turnCode`
    §2 Nodes       `Node.turned`, `Node.turned_turned`
    §3 Sequences   `ofList_turned`, `unpack_turned`, `joinAlternatives_turned`
    §4 Parts       `Node.items`, `items_unpack`, `items_joinAlternatives`
-/
import Mathlib.Data.List.Basic
import Mathlib.Tactic.SplitIfs
import TreeSift.Regex.Reader

namespace TreeSift

/-! ## §1 Characters -/

/-- The other separator for a separator; every other character stays. -/
def turn (c : Char) : Char := if c = '/' then '\\' else if c = '\\' then '/' else c

namespace Regex

/-- The code point of the other separator for that of a separator. -/
def turnCode (n : Nat) : Nat := if n = 0x2F then 0x5C else if n = 0x5C then 0x2F else n

theorem turnCode_turnCode (n : Nat) : turnCode (turnCode n) = n := by
  unfold turnCode
  split_ifs <;> simp_all

theorem turnCode_inj {m n : Nat} : turnCode m = turnCode n ↔ m = n :=
  (Function.LeftInverse.injective turnCode_turnCode).eq_iff

theorem turnCode_of_ne {n : Nat} (slash : n ≠ 0x2F) (backslash : n ≠ 0x5C) : turnCode n = n := by
  rw [turnCode, if_neg slash, if_neg backslash]

theorem turnCode_toNat {c : Char} (slash : c ≠ '/') (backslash : c ≠ '\\') :
    turnCode c.toNat = c.toNat :=
  turnCode_of_ne (fun eq => slash (Char.toNat_inj.mp eq)) fun eq =>
    backslash (Char.toNat_inj.mp eq)

theorem beq_turnCode (m n : Nat) : (turnCode m == turnCode n) = (m == n) := by
  rw [Bool.eq_iff_iff, beq_iff_eq, beq_iff_eq, turnCode_inj]

theorem toNat_turn (c : Char) : (turn c).toNat = turnCode c.toNat := by
  have key : ∀ d : Char, c.toNat = d.toNat ↔ c = d := fun d => Char.toNat_inj
  simp only [turn, turnCode, ← key]
  split_ifs <;> simp_all

theorem turn_turn (c : Char) : turn (turn c) = c := by
  rw [← Char.toNat_inj, toNat_turn, toNat_turn, turnCode_turnCode]

theorem turn_eq_iff {c d : Char} : turn c = d ↔ c = turn d :=
  ⟨fun h => by rw [← h, turn_turn], fun h => by rw [h, turn_turn]⟩

theorem turn_cases (c : Char) : c = '/' ∨ c = '\\' ∨ turn c = c := by
  unfold turn
  split_ifs <;> simp_all

/-! ## §2 Nodes -/

namespace SetItem

/-- A part of a set with the separators exchanged; ranges stay. -/
def turned : SetItem → SetItem
  | code n => code (turnCode n)
  | range first last => range first last
  | category k negated => category k negated

theorem turned_turned (item : SetItem) : item.turned.turned = item := by
  cases item with
  | code n => exact congrArg code (turnCode_turnCode n)
  | range | category => rfl

theorem turned_injective : Function.Injective turned :=
  Function.LeftInverse.injective turned_turned

end SetItem

namespace Atom

/-- An atom with the separators exchanged. -/
def turned : Atom → Atom
  | code n => code (turnCode n)
  | notCode n => notCode (turnCode n)
  | any => any
  | set negated items => set negated (items.map SetItem.turned)
  | anchor a => anchor a
  | reference g => reference g

theorem turned_turned (a : Atom) : a.turned.turned = a := by
  cases a with
  | code n => exact congrArg code (turnCode_turnCode n)
  | notCode n => exact congrArg notCode (turnCode_turnCode n)
  | set negated items =>
    simp only [turned, List.map_map, set.injEq, true_and]
    exact List.map_id'' SetItem.turned_turned items
  | any | anchor | reference => rfl

end Atom

namespace Node

/-- A node with the separators exchanged. -/
def turned : Node → Node
  | empty => empty
  | atom a => atom a.turned
  | seq first rest => seq first.turned rest.turned
  | alt first rest => alt first.turned rest.turned
  | group index added removed body => group index added removed body.turned
  | atomic body => atomic body.turned
  | repeated greed least most body => repeated greed least most body.turned
  | look behind negated body => look behind negated body.turned
  | condition g yes no => condition g yes.turned no.turned

theorem turned_turned (n : Node) : n.turned.turned = n := by
  induction n with
  | empty => rfl
  | atom a => exact congrArg atom a.turned_turned
  | seq a b iha ihb | alt a b iha ihb => simp only [turned, iha, ihb]
  | group _ _ _ body ih | repeated _ _ _ body ih => simp only [turned, ih]
  | atomic body ih | look _ _ body ih => simp only [turned, ih]
  | condition _ yes no ihy ihn => simp only [turned, ihy, ihn]

theorem turned_injective : Function.Injective turned :=
  Function.LeftInverse.injective turned_turned

theorem rawWidth_turned (groups : Nat → Nat × Nat) (n : Node) :
    n.turned.rawWidth groups = n.rawWidth groups := by
  induction n with
  | empty | look => rfl
  | atom a => cases a <;> rfl
  | seq a b iha ihb | alt a b iha ihb => simp only [turned, rawWidth, iha, ihb]
  | group _ _ _ body ih | repeated _ _ _ body ih => simp only [turned, rawWidth, ih]
  | atomic body ih => simp only [turned, rawWidth, ih]
  | condition _ yes no ihy ihn => simp only [turned, rawWidth, ihy, ihn]

theorem width_turned (groups : Nat → Nat × Nat) (n : Node) :
    n.turned.width groups = n.width groups := by
  rw [width, width, rawWidth_turned]

/-! ## §3 Sequences -/

theorem ofList_turned (nodes : List Node) : ofList (nodes.map turned) = (ofList nodes).turned := by
  induction nodes with
  | nil => rfl
  | cons n rest ih =>
    cases rest with
    | nil => rfl
    | cons m more => exact congrArg (seq n.turned) ih

theorem ofAlternatives_turned (nodes : List Node) :
    ofAlternatives (nodes.map turned) = (ofAlternatives nodes).turned := by
  induction nodes with
  | nil => rfl
  | cons n rest ih =>
    cases rest with
    | nil => rfl
    | cons m more => exact congrArg (alt n.turned) ih

theorem toList_turned (n : Node) : n.turned.toList = n.toList.map turned := by
  induction n with
  | seq a b _ ihb => exact congrArg (a.turned :: ·) ihb
  | _ => rfl

end Node

namespace Reader

theorem unpack_turned (nodes : List Node) :
    unpack (nodes.map Node.turned) = (unpack nodes).map Node.turned := by
  unfold unpack
  rw [← List.map_reverse, List.flatMap_map, List.map_flatMap]
  refine List.flatMap_congr fun n _ => ?_
  -- Only a group without number and flags is not left as it is.
  cases n with
  | group index added removed body =>
    cases index with
    | some g => rfl
    | none =>
      cases added with
      | cons => rfl
      | nil =>
        cases removed with
        | cons => rfl
        | nil => exact body.toList_turned
  | _ => rfl

/-- Dropping repeated members is the same before and after a change that keeps
different members apart. -/
theorem eraseDups_map {α β : Type} [BEq α] [LawfulBEq α] [BEq β] [LawfulBEq β] {f : α → β}
    (apart : Function.Injective f) (as : List α) :
    (as.map f).eraseDups = as.eraseDups.map f := by
  match as with
  | [] => rfl
  | a :: rest =>
    have others : (rest.map f).filter (fun b => !b == f a) =
        (rest.filter fun b => !b == a).map f := by
      rw [List.filter_map]
      refine congrArg (List.map f) (List.filter_congr fun b _ => congrArg Bool.not ?_)
      rw [Bool.eq_iff_iff, beq_iff_eq, beq_iff_eq]
      exact apart.eq_iff
    rw [List.map_cons, List.eraseDups_cons, others, eraseDups_map apart, List.eraseDups_cons,
      List.map_cons]
termination_by as.length
decreasing_by
  have := List.length_filter_le (fun b => !b == a) rest
  simp only [List.length_cons]
  omega

theorem sharedStart_turned (nodes : List Node) (others : List (List Node)) :
    sharedStart (nodes.map Node.turned) (others.map (List.map Node.turned)) =
      let (shared, first, more) := sharedStart nodes others
      (shared.map Node.turned, first.map Node.turned, more.map (List.map Node.turned)) := by
  induction nodes generalizing others with
  | nil => rfl
  | cons n rest ih =>
    cases n with
    | atom a =>
      have begin : ((others.map (List.map Node.turned)).all fun nodes =>
            nodes.head? == some (Node.atom a).turned) =
          others.all fun nodes => nodes.head? == some (.atom a) := by
        rw [List.all_map]
        congr 1
        funext nodes
        rw [Function.comp_apply, List.head?_map, Bool.eq_iff_iff, beq_iff_eq, beq_iff_eq,
          ← Option.map_some]
        exact (Option.map_injective Node.turned_injective).eq_iff
      have tails : (others.map (List.map Node.turned)).map List.tail =
          (others.map List.tail).map (List.map Node.turned) := by
        simp only [List.map_map, Function.comp_def, List.map_tail]
      simp only [Node.turned, List.map_cons] at begin ⊢
      simp only [sharedStart, begin, tails, ih]
      split <;> rfl
    | _ => rfl

theorem asItems?_turned (nodes : List Node) :
    asItems? (nodes.map Node.turned) = (asItems? nodes).map (List.map SetItem.turned) := by
  cases nodes with
  | nil => rfl
  | cons n rest =>
    cases rest with
    | cons m more => rw [asItems?, asItems?] <;> simp
    | nil =>
      cases n with
      | atom a =>
        cases a with
        | set negated items => cases negated <;> rfl
        | _ => rfl
      | _ => rfl

theorem mapM_asItems?_turned (alternatives : List (List Node)) :
    (alternatives.map (List.map Node.turned)).mapM asItems? =
      (alternatives.mapM asItems?).map (List.map (List.map SetItem.turned)) := by
  induction alternatives with
  | nil => rfl
  | cons nodes rest ih =>
    simp only [List.map_cons, List.mapM_cons, asItems?_turned, ih]
    cases asItems? nodes <;> cases rest.mapM asItems? <;> rfl

theorem joinAlternatives_turned (alternatives : List (List Node)) :
    joinAlternatives (alternatives.map (List.map Node.turned)) =
      (joinAlternatives alternatives).map Node.turned := by
  match alternatives with
  | [] => rfl
  | [only] => rfl
  | first :: second :: more =>
    simp only [List.map_cons, joinAlternatives]
    rw [← List.map_cons, sharedStart_turned first (second :: more)]
    generalize sharedStart first (second :: more) = parts
    obtain ⟨shared, rest, others⟩ := parts
    simp only
    rw [← List.map_cons, mapM_asItems?_turned]
    cases (rest :: others).mapM asItems? with
    | some items =>
      simp only [Option.map_some, ← List.map_flatten, eraseDups_map SetItem.turned_injective,
        List.map_append, List.map_cons, List.map_nil, Node.turned, Atom.turned]
    | none =>
      have nodes (alternatives : List (List Node)) :
          (alternatives.map (List.map Node.turned)).map Node.ofList =
            (alternatives.map Node.ofList).map Node.turned := by
        simp only [List.map_map, Function.comp_def, Node.ofList_turned]
      simp only [Option.map_none, nodes, Node.ofList_turned]
      rw [← List.map_cons, Node.ofAlternatives_turned, List.map_append]
      rfl

end Reader

/-! ## §4 Parts -/

/-- The parts of an atom that is a set. -/
def Atom.items : Atom → List SetItem
  | set _ items => items
  | _ => []

namespace Node

/-- The sets in a node, each with its parts. -/
def sets : Node → List (List SetItem)
  | empty => []
  | atom (.set _ items) => [items]
  | atom _ => []
  | seq a b | alt a b | condition _ a b => a.sets ++ b.sets
  | group _ _ _ body | atomic body | repeated _ _ _ body | look _ _ body => body.sets

/-- The parts of all sets in a node. -/
def items : Node → List SetItem
  | empty => []
  | atom a => a.items
  | seq a b | alt a b | condition _ a b => a.items ++ b.items
  | group _ _ _ body | atomic body | repeated _ _ _ body | look _ _ body => body.items

theorem items_ofList (nodes : List Node) : (ofList nodes).items = nodes.flatMap items := by
  induction nodes with
  | nil => rfl
  | cons n rest ih =>
    cases rest with
    | nil => exact (List.append_nil _).symm
    | cons m more => exact congrArg (n.items ++ ·) ih

theorem items_ofAlternatives (nodes : List Node) :
    (ofAlternatives nodes).items = nodes.flatMap items := by
  induction nodes with
  | nil => rfl
  | cons n rest ih =>
    cases rest with
    | nil => exact (List.append_nil _).symm
    | cons m more => exact congrArg (n.items ++ ·) ih

theorem items_toList (n : Node) : n.toList.flatMap items = n.items := by
  induction n with
  | empty => rfl
  | seq a b _ ihb => exact congrArg (a.items ++ ·) ihb
  | _ => exact List.append_nil _

end Node

namespace Reader

/-- A sequence holds the parts of all its nodes. -/
theorem items_unpack (nodes : List Node) :
    nodes.flatMap Node.items ⊆ (unpack nodes).flatMap Node.items := by
  intro item inside
  obtain ⟨n, member, within⟩ := List.mem_flatMap.mp inside
  unfold unpack
  rw [List.flatMap_assoc, List.mem_flatMap]
  refine ⟨n, List.mem_reverse.mpr member, ?_⟩
  split
  · rwa [Node.items_toList]
  · rwa [List.flatMap_singleton]

theorem items_sharedStart {nodes : List Node} {others : List (List Node)} :
    ∀ alternative ∈ nodes :: others, alternative.flatMap Node.items ⊆
      (sharedStart nodes others).1.flatMap Node.items ++
        ((sharedStart nodes others).2.1 :: (sharedStart nodes others).2.2).flatMap
          (·.flatMap Node.items) := by
  intro alternative member
  have apart : alternative.flatMap Node.items ⊆
      (nodes :: others).flatMap (·.flatMap Node.items) :=
    fun item inside => List.mem_flatMap.mpr ⟨alternative, member, inside⟩
  induction nodes generalizing others alternative with
  | nil => exact apart
  | cons n rest ih =>
    cases n with
    | atom a =>
      rw [sharedStart]
      split
      next begin =>
        obtain ⟨tail, rfl, behind⟩ : ∃ tail, alternative = .atom a :: tail ∧
            tail ∈ rest :: others.map List.tail := by
          rcases List.mem_cons.mp member with rfl | other
          · exact ⟨rest, rfl, List.mem_cons_self⟩
          · have head := List.all_eq_true.mp begin alternative other
            obtain ⟨tail, rfl⟩ := List.head?_eq_some_iff.mp (beq_iff_eq.mp head)
            exact ⟨tail, rfl, List.mem_cons_of_mem _ (List.mem_map.mpr ⟨_, other, rfl⟩)⟩
        have within := ih tail behind fun item inside =>
          List.mem_flatMap.mpr ⟨tail, behind, inside⟩
        simp only [List.flatMap_cons, List.append_assoc] at within ⊢
        exact List.append_subset.mpr ⟨List.subset_append_left _ _,
          List.subset_append_of_subset_right _ within⟩
      next => exact apart
    | _ => exact apart

theorem items_mapM_asItems? {alternatives : List (List Node)} {items : List (List SetItem)}
    (single : alternatives.mapM asItems? = some items) :
    alternatives.flatMap (·.flatMap Node.items) ⊆ items.flatten := by
  induction alternatives generalizing items with
  | nil => exact List.nil_subset _
  | cons nodes rest ih =>
    rw [List.mapM_cons, Option.bind_eq_bind, Option.bind_eq_some_iff] at single
    obtain ⟨first, one, more⟩ := single
    obtain ⟨others, found, eq⟩ := Option.bind_eq_some_iff.mp more
    cases eq
    rw [List.flatMap_cons, List.flatten_cons]
    refine List.append_subset.mpr ⟨?_, ?_⟩
    · refine List.subset_append_of_subset_left _ ?_
      unfold asItems? at one
      split at one
      · exact List.nil_subset _
      · cases one
        exact fun item inside => by simpa [Node.items, Atom.items] using inside
      · cases one
    · exact List.subset_append_of_subset_right _ (ih found)

/-- Alternatives that are joined hold the parts of each. -/
theorem items_joinAlternatives {alternatives : List (List Node)} :
    ∀ alternative ∈ alternatives,
      alternative.flatMap Node.items ⊆ (joinAlternatives alternatives).flatMap Node.items := by
  intro alternative member
  match alternatives with
  | [only] => 
    rw [List.mem_singleton.mp member]
    exact List.Subset.refl _
  | first :: second :: more =>
    refine List.Subset.trans (items_sharedStart alternative member) ?_
    simp only [joinAlternatives]
    generalize sharedStart first (second :: more) = parts
    obtain ⟨shared, rest, others⟩ := parts
    simp only
    split
    next items single =>
      rw [List.flatMap_append]
      refine List.append_subset.mpr ⟨List.subset_append_left _ _, 
        List.subset_append_of_subset_right _ ?_⟩
      intro item inside
      have := items_mapM_asItems? single inside
      simpa [Node.items, Atom.items] using this
    next =>
      have kept (alternatives : List (List Node)) :
          (alternatives.map Node.ofList).flatMap Node.items =
            alternatives.flatMap (·.flatMap Node.items) := by
        simp only [List.flatMap_map, Node.items_ofList]
      rw [List.flatMap_append, List.flatMap_singleton, Node.items_ofAlternatives, kept]
      exact List.Subset.refl _

end Reader

end Regex

end TreeSift
