/-
  TreeSift.Proofs.Document.Shared — without an alias nothing stands at two positions.

  The number of a mapping is how many tokens there are from its first one on. A reader
  takes tokens away from the front and never puts any back, so that of what it reads
  without aliases no two mappings have the same number (`Numbered`, `readNumbered`). The
  mappings in the value of a node are some of those in the node (`mappings_subperm`), and
  so none of them is tied to another (`ties_eq_nil`).

    §1 Numbers   `Node.numbers`, `Numbered`
    §2 Readers   `ReadNumbered`, `readNumbered`
    §3 Documents `numbers_nodup`
    §4 Values    `flatten_subperm`, `mappings_subperm`
    §5 Ties      `ties_eq_nil`
-/
import Mathlib.Data.List.Nodup
import Mathlib.Data.List.Perm.Subperm
import TreeSift.Document.Shared
import TreeSift.Proofs.Fallible

namespace TreeSift.Document

/-! ## §1 Numbers -/

mutual

/-- The numbers of all mappings in a node. -/
def Node.numbers : Node → List Nat
  | .scalar _ _ _ => []
  | .sequence _ items => numbersOfItems items
  | .mapping number _ entries => number :: numbersOfEntries entries

/-- The numbers of all mappings in nodes. -/
def numbersOfItems : List Node → List Nat
  | [] => []
  | n :: rest => n.numbers ++ numbersOfItems rest

/-- The numbers of all mappings in entries. -/
def numbersOfEntries : List (Node × Node) → List Nat
  | [] => []
  | (k, v) :: rest => k.numbers ++ (v.numbers ++ numbersOfEntries rest)

end

theorem numbersOfItems_eq (items : List Node) :
    numbersOfItems items = items.flatMap Node.numbers := by
  induction items with
  | nil => rfl
  | cons n rest ih => rw [numbersOfItems, List.flatMap_cons, ih]

theorem numbersOfEntries_eq (entries : List (Node × Node)) :
    numbersOfEntries entries = entries.flatMap fun e => e.1.numbers ++ e.2.numbers := by
  induction entries with
  | nil => rfl
  | cons e rest ih => simp [numbersOfEntries, ih]

theorem numbersOfEntries_append (before after : List (Node × Node)) :
    numbersOfEntries (before ++ after) = numbersOfEntries before ++ numbersOfEntries after := by
  rw [numbersOfEntries_eq, List.flatMap_append, ← numbersOfEntries_eq, ← numbersOfEntries_eq]

/-- What has been read between two states of a reader has numbers that tell its mappings
apart, and they count tokens that are not left. -/
structure Numbered (r : NodeReader) (numbers : List Nat) (left : NodeReader) : Prop where
  suffix : left.rest <:+ r.rest
  nodup : numbers.Nodup
  within : ∀ n ∈ numbers, left.rest.length < n ∧ n ≤ r.rest.length

namespace Numbered

variable {r middle left : NodeReader} {ns ms : List Nat}

theorem nothing (suffix : left.rest <:+ r.rest) : Numbered r [] left :=
  ⟨suffix, List.nodup_nil, by simp⟩

theorem append (first : Numbered r ns middle) (second : Numbered middle ms left) :
    Numbered r (ns ++ ms) left := by
  have shorter := second.suffix.length_le
  have longer := first.suffix.length_le
  refine ⟨second.suffix.trans first.suffix, ?_, ?_⟩
  · refine List.nodup_append.2 ⟨first.nodup, second.nodup, ?_⟩
    intro n hn m hm
    have := first.within n hn
    have := second.within m hm
    omega
  · intro n hn
    rcases List.mem_append.1 hn with hn | hn
    · have := first.within n hn
      omega
    · have := second.within n hn
      omega

/-- What is read after some tokens. -/
theorem later (suffix : middle.rest <:+ r.rest) (h : Numbered middle ns left) :
    Numbered r ns left := (nothing suffix).append h

theorem skip_suffix (r : NodeReader) : r.skip.rest <:+ r.rest := List.tail_suffix _

theorem skip (h : Numbered r.skip ns left) : Numbered r ns left := h.later (skip_suffix r)

/-- A mapping that begins with the next token. -/
theorem mapping (some : r.rest ≠ []) (h : Numbered r.skip ns left) :
    Numbered r (r.rest.length :: ns) left := by
  have less : r.skip.rest.length < r.rest.length := by
    have := List.length_pos_iff.2 some
    simp only [NodeReader.skip, List.length_tail]
    omega
  have ends := h.suffix.length_le
  refine ⟨h.suffix.trans (skip_suffix r), List.nodup_cons.2 ⟨?_, h.nodup⟩, ?_⟩
  · intro twice
    have := h.within _ twice
    omega
  · intro n hn
    rcases List.mem_cons.1 hn with rfl | hn
    · omega
    · have := h.within n hn
      omega

/-- The state that is left may know other anchors. -/
theorem congr_left {other : NodeReader} (same : other.rest = left.rest) (h : Numbered r ns left) :
    Numbered r ns other := ⟨same ▸ h.suffix, h.nodup, same ▸ h.within⟩

end Numbered

/-! ## §2 Readers -/

/-- No token that is left is an alias. -/
def AliasFree (r : NodeReader) : Prop := ∀ a, Token.alias a ∉ r.rest

theorem AliasFree.of_suffix {r left : NodeReader} (free : AliasFree r)
    (suffix : left.rest <:+ r.rest) : AliasFree left := fun a h => free a (suffix.mem h)

theorem Numbered.free {r left : NodeReader} {ns : List Nat} (h : Numbered r ns left)
    (free : AliasFree r) : AliasFree left := free.of_suffix h.suffix

/-- With a number of steps, all that is read without aliases is numbered. -/
structure ReadNumbered (steps : Nat) : Prop where
  node : ∀ {room block indentless r n left}, AliasFree r →
    NodeReader.node room block indentless steps r = .ok (n, left) → Numbered r n.numbers left
  nodeOrEmpty : ∀ {room block indentless stops r n left}, AliasFree r →
    NodeReader.nodeOrEmpty room block indentless stops steps r = .ok (n, left) →
      Numbered r n.numbers left
  blockItems : ∀ {room items r all left}, AliasFree r →
    NodeReader.blockItems room items steps r = .ok (all, left) →
      ∃ new, all = items.reverse ++ new ∧ Numbered r (numbersOfItems new) left
  indentlessItems : ∀ {room items r all left}, AliasFree r →
    NodeReader.indentlessItems room items steps r = .ok (all, left) →
      ∃ new, all = items.reverse ++ new ∧ Numbered r (numbersOfItems new) left
  blockEntries : ∀ {room entries r all left}, AliasFree r →
    NodeReader.blockEntries room entries steps r = .ok (all, left) →
      ∃ new, all = entries.reverse ++ new ∧ Numbered r (numbersOfEntries new) left
  flowItems : ∀ {room first items r all left}, AliasFree r →
    NodeReader.flowItems room first items steps r = .ok (all, left) →
      ∃ new, all = items.reverse ++ new ∧ Numbered r (numbersOfItems new) left
  flowEntries : ∀ {room first entries r all left}, AliasFree r →
    NodeReader.flowEntries room first entries steps r = .ok (all, left) →
      ∃ new, all = entries.reverse ++ new ∧ Numbered r (numbersOfEntries new) left

theorem refuse_ne_ok {α : Type} (r : NodeReader) (a : α) : r.refuse ≠ .ok a := by
  rw [NodeReader.refuse]
  split <;> simp

theorem properties_suffix (r : NodeReader) : r.properties.2.2.rest <:+ r.rest := by
  rw [NodeReader.properties]
  split <;> rename_i h <;> simp [h]
  · exact ⟨[_, _], rfl⟩
  · exact ⟨[_, _], rfl⟩

theorem rest_of_announce {r announced : NodeReader} {anchor : Option String}
    (h : r.announce anchor = .ok announced) : announced.rest = r.rest := by
  cases anchor with
  | none => rw [← Except.ok.inj h]
  | some a =>
    rw [NodeReader.announce] at h
    split at h
    · exact absurd h (by simp)
    · rw [← Except.ok.inj h]

/-- What stands before a node are the first tokens. -/
theorem suffix_of_opening {r s : NodeReader} {anchor tag : Option String}
    (h : r.opening = .ok ((anchor, tag), s)) : s.rest <:+ r.rest := by
  have suffix := properties_suffix r
  rw [NodeReader.opening] at h
  generalize r.properties = properties at h suffix
  obtain ⟨anchor, tag, middle⟩ := properties
  dsimp only at h suffix
  obtain ⟨-, -, h⟩ := Fallible.bind_eq_ok.1 h
  obtain ⟨tag, -, h⟩ := Fallible.bind_eq_ok.1 h
  obtain ⟨-, -, h⟩ := Fallible.bind_eq_ok.1 h
  obtain ⟨known, given, h⟩ := Fallible.bind_eq_ok.1 h
  cases h
  rw [rest_of_announce given]
  exact suffix

theorem rest_settle (r : NodeReader) (anchor : Option String) (n : Node) :
    (r.settle anchor n).rest = r.rest := by
  cases anchor <;> rfl

/-- A node that has been read is written down under its anchor. -/
theorem Numbered.settled {r announced middle left : NodeReader} {anchor : Option String}
    {m n : Node} (suffix : announced.rest <:+ r.rest) (read : Numbered announced m.numbers middle)
    (given : Except.ok (m, middle.settle anchor m) = (.ok (n, left) : Except Fault _)) :
    Numbered r n.numbers left := by
  cases given
  exact (read.congr_left (rest_settle middle anchor m)).later suffix

/-- Before its first part a collection has nothing to skip. -/
theorem begin_suffix (first : Bool) (r : NodeReader) :
    (if first = true then r else r.skip).rest <:+ r.rest := by
  split
  · exact List.suffix_refl _
  · exact Numbered.skip_suffix r

section

variable {steps room : Nat} (ih : ReadNumbered steps)
include ih

theorem nodeOrEmpty_numbered {block indentless : Bool} {stops : List Token} {r left : NodeReader}
    {n : Node} (free : AliasFree r)
    (h : NodeReader.nodeOrEmpty room block indentless stops (steps + 1) r = .ok (n, left)) :
    Numbered r n.numbers left := by
  rw [NodeReader.nodeOrEmpty] at h
  split at h
  · cases h
    exact .nothing (List.suffix_refl _)
  · exact ih.node free h

theorem blockItems_numbered {items all : List Node} {r left : NodeReader} (free : AliasFree r)
    (h : NodeReader.blockItems room items (steps + 1) r = .ok (all, left)) :
    ∃ new, all = items.reverse ++ new ∧ Numbered r (numbersOfItems new) left := by
  rw [NodeReader.blockItems] at h
  split at h
  · obtain ⟨⟨n, middle⟩, one, h⟩ := Fallible.bind_eq_ok.1 h
    have first := (ih.nodeOrEmpty (free.of_suffix (Numbered.skip_suffix r)) one).skip
    obtain ⟨new, rfl, others⟩ := ih.blockItems (first.free free) h
    exact ⟨n :: new, by simp, first.append others⟩
  · cases h
    exact ⟨[], by simp, .nothing (Numbered.skip_suffix r)⟩
  · exact absurd h (refuse_ne_ok r _)

theorem indentlessItems_numbered {items all : List Node} {r left : NodeReader}
    (free : AliasFree r)
    (h : NodeReader.indentlessItems room items (steps + 1) r = .ok (all, left)) :
    ∃ new, all = items.reverse ++ new ∧ Numbered r (numbersOfItems new) left := by
  rw [NodeReader.indentlessItems] at h
  split at h
  · obtain ⟨⟨n, middle⟩, one, h⟩ := Fallible.bind_eq_ok.1 h
    have first := (ih.nodeOrEmpty (free.of_suffix (Numbered.skip_suffix r)) one).skip
    obtain ⟨new, rfl, others⟩ := ih.indentlessItems (first.free free) h
    exact ⟨n :: new, by simp, first.append others⟩
  · cases h
    exact ⟨[], by simp, .nothing (List.suffix_refl _)⟩

/-- The value of a key, where one may be missing. -/
theorem value_numbered {α : Type} {block indentless : Bool} {stops : List Token}
    {r : NodeReader} {go : Node × NodeReader → Except Fault α} {a : α} (free : AliasFree r)
    (h : (if r.sees [.value] then
        NodeReader.nodeOrEmpty room block indentless stops steps r.skip >>= go
      else pure (.empty, r) >>= go) = .ok a) :
    ∃ v left, Numbered r v.numbers left ∧ go (v, left) = .ok a := by
  split at h
  · obtain ⟨⟨v, left⟩, read, h⟩ := Fallible.bind_eq_ok.1 h
    exact ⟨v, left, (ih.nodeOrEmpty (free.of_suffix (Numbered.skip_suffix r)) read).skip, h⟩
  · exact ⟨.empty, r, .nothing (List.suffix_refl _), h⟩

theorem blockEntries_numbered {entries all : List (Node × Node)} {r left : NodeReader}
    (free : AliasFree r)
    (h : NodeReader.blockEntries room entries (steps + 1) r = .ok (all, left)) :
    ∃ new, all = entries.reverse ++ new ∧ Numbered r (numbersOfEntries new) left := by
  rw [NodeReader.blockEntries] at h
  split at h
  · obtain ⟨⟨k, middle⟩, one, h⟩ := Fallible.bind_eq_ok.1 h
    have first := (ih.nodeOrEmpty (free.of_suffix (Numbered.skip_suffix r)) one).skip
    obtain ⟨v, middle, second, h⟩ := value_numbered ih (first.free free) h
    obtain ⟨new, rfl, others⟩ := ih.blockEntries (second.free (first.free free)) h
    exact ⟨(k, v) :: new, by simp, first.append (second.append others)⟩
  · cases h
    exact ⟨[], by simp, .nothing (Numbered.skip_suffix r)⟩
  · exact absurd h (refuse_ne_ok r _)

theorem flowItems_numbered {first : Bool} {items all : List Node} {r left : NodeReader}
    (free : AliasFree r)
    (h : NodeReader.flowItems room first items (steps + 1) r = .ok (all, left)) :
    ∃ new, all = items.reverse ++ new ∧ Numbered r (numbersOfItems new) left := by
  rw [NodeReader.flowItems] at h
  split at h
  · cases h
    exact ⟨[], by simp, .nothing (Numbered.skip_suffix r)⟩
  · split at h
    · exact absurd h (refuse_ne_ok r _)
    · have suffix := begin_suffix first r
      generalize (if first = true then r else r.skip) = s at h suffix
      have free := free.of_suffix suffix
      dsimp only at h
      split at h
      · rename_i pair
        obtain ⟨⟨k, middle⟩, one, h⟩ := Fallible.bind_eq_ok.1 h
        have first := ih.nodeOrEmpty (free.of_suffix (Numbered.skip_suffix s)) one
        obtain ⟨v, middle, second, h⟩ := value_numbered ih (first.skip.free free) h
        have begins : s.rest ≠ [] := by
          intro none
          simp [NodeReader.sees, none] at pair
        have both := Numbered.mapping begins
          (first.append (second.append (.nothing (List.suffix_refl _))))
        obtain ⟨new, rfl, others⟩ := ih.flowItems (both.free free) h
        exact ⟨.mapping s.rest.length none [(k, v)] :: new, by simp,
          (both.append others).later suffix⟩
      · split at h
        · cases h
          exact ⟨[], by simp, .nothing ((Numbered.skip_suffix s).trans suffix)⟩
        · obtain ⟨⟨n, middle⟩, one, h⟩ := Fallible.bind_eq_ok.1 h
          have first := ih.node free one
          obtain ⟨new, rfl, others⟩ := ih.flowItems (first.free free) h
          exact ⟨n :: new, by simp, (first.append others).later suffix⟩

theorem flowEntries_numbered {first : Bool} {entries all : List (Node × Node)}
    {r left : NodeReader} (free : AliasFree r)
    (h : NodeReader.flowEntries room first entries (steps + 1) r = .ok (all, left)) :
    ∃ new, all = entries.reverse ++ new ∧ Numbered r (numbersOfEntries new) left := by
  rw [NodeReader.flowEntries] at h
  split at h
  · cases h
    exact ⟨[], by simp, .nothing (Numbered.skip_suffix r)⟩
  · split at h
    · exact absurd h (refuse_ne_ok r _)
    · have suffix := begin_suffix first r
      generalize (if first = true then r else r.skip) = s at h suffix
      have free := free.of_suffix suffix
      dsimp only at h
      split at h
      · obtain ⟨⟨k, middle⟩, one, h⟩ := Fallible.bind_eq_ok.1 h
        have first := (ih.nodeOrEmpty (free.of_suffix (Numbered.skip_suffix s)) one).skip
        obtain ⟨v, middle, second, h⟩ := value_numbered ih (first.free free) h
        obtain ⟨new, rfl, others⟩ := ih.flowEntries (second.free (first.free free)) h
        exact ⟨(k, v) :: new, by simp, (first.append (second.append others)).later suffix⟩
      · split at h
        · cases h
          exact ⟨[], by simp, .nothing ((Numbered.skip_suffix s).trans suffix)⟩
        · obtain ⟨⟨k, middle⟩, one, h⟩ := Fallible.bind_eq_ok.1 h
          have first := ih.node free one
          obtain ⟨new, rfl, others⟩ := ih.flowEntries (first.free free) h
          exact ⟨(k, .empty) :: new, by simp, (first.append others).later suffix⟩

theorem node_numbered {block indentless : Bool} {r left : NodeReader} {n : Node}
    (free : AliasFree r)
    (h : NodeReader.node room block indentless (steps + 1) r = .ok (n, left)) :
    Numbered r n.numbers left := by
  rw [NodeReader.node] at h
  split at h
  · rename_i a rest next
    exact absurd (next ▸ List.mem_cons_self) (free a)
  · obtain ⟨-, -, h⟩ := Fallible.bind_eq_ok.1 h
    obtain ⟨⟨⟨anchor, tag⟩, announced⟩, opened, h⟩ := Fallible.bind_eq_ok.1 h
    have suffix := suffix_of_opening opened
    dsimp only at h suffix
    have free := free.of_suffix suffix
    have skipped := free.of_suffix (Numbered.skip_suffix announced)
    -- What the next token is tells what kind of node is read.
    split at h
    · refine .settled suffix ?_ h
      exact .nothing (Numbered.skip_suffix announced)
    · obtain ⟨⟨items, middle⟩, read, h⟩ := Fallible.bind_eq_ok.1 h
      obtain ⟨new, rfl, numbered⟩ := ih.flowItems skipped read
      refine .settled suffix ?_ h
      exact numbered.skip
    · rename_i next
      obtain ⟨⟨entries, middle⟩, read, h⟩ := Fallible.bind_eq_ok.1 h
      obtain ⟨new, rfl, numbered⟩ := ih.flowEntries skipped read
      refine .settled suffix ?_ h
      exact .mapping (by simp [next]) numbered
    · rename_i next
      split at h
      · obtain ⟨⟨items, middle⟩, read, h⟩ := Fallible.bind_eq_ok.1 h
        obtain ⟨new, rfl, numbered⟩ := ih.indentlessItems free read
        refine .settled suffix ?_ h
        exact numbered
      · split at h
        · obtain ⟨⟨items, middle⟩, read, h⟩ := Fallible.bind_eq_ok.1 h
          obtain ⟨new, rfl, numbered⟩ := ih.blockItems skipped read
          refine .settled suffix ?_ h
          exact numbered.skip
        · split at h
          · obtain ⟨⟨entries, middle⟩, read, h⟩ := Fallible.bind_eq_ok.1 h
            obtain ⟨new, rfl, numbered⟩ := ih.blockEntries skipped read
            refine .settled suffix ?_ h
            exact .mapping (by simp [next]) numbered
          · split at h
            · refine .settled suffix ?_ h
              exact .nothing (List.suffix_refl _)
            · cases h
    · split at h
      · refine .settled suffix ?_ h
        exact .nothing (List.suffix_refl _)
      · cases h

end

/-- Whatever the number of steps, all that is read without aliases is numbered. -/
theorem readNumbered (steps : Nat) : ReadNumbered steps := by
  induction steps with
  | zero => constructor <;> (intros; rename_i h; cases h)
  | succ steps ih =>
    exact ⟨node_numbered ih, nodeOrEmpty_numbered ih, blockItems_numbered ih,
      indentlessItems_numbered ih, blockEntries_numbered ih, flowItems_numbered ih,
      flowEntries_numbered ih⟩

/-! ## §3 Documents -/

theorem suffix_of_directives {versioned : Bool} {known handles : Keyed String String}
    {ts rest : List Token}
    (h : NodeReader.directives versioned known ts = .ok (handles, rest)) : rest <:+ ts := by
  fun_induction NodeReader.directives versioned known ts with
  | case1 => exact absurd h (by simp)
  | case2 versioned known major later fits ih => exact (ih h).trans (List.suffix_cons _ _)
  | case3 => exact absurd h (by simp)
  | case4 versioned known handle replacement later new ih =>
    exact (ih h).trans (List.suffix_cons _ _)
  | case5 versioned known later ih => exact (ih h).trans (List.suffix_cons _ _)
  | case6 =>
    cases h
    exact List.suffix_refl _

/-- A document that is read is the only one. -/
theorem eq_of_finish {read : Node × NodeReader} {n : Node}
    (h : NodeReader.finish read = .ok (some n)) : read.1 = n := by
  rw [NodeReader.finish] at h
  split at h
  · cases h
    rfl
  · obtain ⟨⟨handles, rest⟩, -, h⟩ := Fallible.bind_eq_ok.1 h
    exact absurd h (refuse_ne_ok _ _)

/-- The mappings of a document without aliases have different numbers. -/
theorem numbers_nodup {ts : List Token} {n : Node} (free : ∀ a, Token.alias a ∉ ts)
    (h : Node.ofTokens ts = .ok (some n)) : n.numbers.Nodup := by
  have whole : ∀ (steps : Nat) (r : NodeReader), r.rest <:+ ts →
      (NodeReader.node Node.maxDepth true false steps r >>= NodeReader.finish) = .ok (some n) →
      n.numbers.Nodup := by
    intro steps r suffix given
    obtain ⟨read, given, last⟩ := Fallible.bind_eq_ok.1 given
    rw [← eq_of_finish last]
    exact ((readNumbered steps).node (fun a h => free a (suffix.mem h)) given).nodup
  rw [Node.ofTokens, NodeReader.document.eq_def] at h
  dsimp only at h
  split at h
  · cases h
  iterate 2
    · obtain ⟨⟨handles, rest⟩, opened, h⟩ := Fallible.bind_eq_ok.1 h
      have suffix := suffix_of_directives opened
      dsimp only at h suffix
      split at h
      · have suffix := (List.suffix_cons _ _).trans suffix
        split at h
        · rw [← eq_of_finish h]
          exact List.nodup_nil
        · exact whole _ _ suffix h
      · exact absurd h (refuse_ne_ok _ _)
  · exact whole _ _ (List.suffix_refl _) h

/-! ## §4 Values -/

theorem numbersOfEntries_perm {entries others : List (Node × Node)} (h : entries.Perm others) :
    (numbersOfEntries entries).Perm (numbersOfEntries others) := by
  rw [numbersOfEntries_eq, numbersOfEntries_eq]
  exact h.flatMap_right _

/-- What is taken in from all parts of a list has no more numbers than the parts have. -/
theorem mapM_subperm {α : Type} {f : α → Except Fault (List (Node × Node))}
    {numbers : α → List Nat} {as : List α} {taken : List (List (Node × Node))}
    (each : ∀ a ∈ as, ∀ out, f a = .ok out → (numbersOfEntries out).Subperm (numbers a))
    (h : as.mapM f = .ok taken) :
    (numbersOfEntries taken.flatten).Subperm (as.flatMap numbers) := by
  induction as generalizing taken with
  | nil =>
    cases h
    exact List.Subperm.refl _
  | cons a rest ih =>
    rw [List.mapM_cons] at h
    obtain ⟨out, here, h⟩ := Fallible.bind_eq_ok.1 h
    obtain ⟨outs, others, h⟩ := Fallible.bind_eq_ok.1 h
    cases h
    rw [List.flatten_cons, numbersOfEntries_append, List.flatMap_cons]
    exact (each a List.mem_cons_self out here).append
      (ih (fun b hb => each b (List.mem_cons_of_mem _ hb)) others)

/-- The entries of a mapping and those that it takes in have no more numbers than the
mapping has. -/
theorem flatten_subperm {steps : Nat} {entries all : List (Node × Node)}
    (h : flatten steps entries = .ok all) :
    (numbersOfEntries all).Subperm (numbersOfEntries entries) := by
  induction steps generalizing entries all with
  | zero => cases h
  | succ steps ih =>
    rw [flatten] at h
    obtain ⟨taken, given, h⟩ := Fallible.bind_eq_ok.1 h
    cases h
    have whole := numbersOfEntries_perm
      (List.filter_append_perm (fun e => e.1.tag == .merge) entries)
    refine List.Subperm.trans ?_ whole.subperm
    rw [numbersOfEntries_append, numbersOfEntries_append]
    refine List.Subperm.append ?_ (List.Subperm.refl _)
    rw [numbersOfEntries_eq (entries.filter _)]
    refine mapM_subperm (fun e _ out h => ?_) given
    -- What an entry takes in is within its value.
    refine List.Subperm.trans ?_ (List.sublist_append_right e.1.numbers e.2.numbers).subperm
    obtain ⟨k, v⟩ := e
    cases v with
    | scalar tag text isPlain => cases h
    | mapping number tag inner => exact (ih h).trans (List.sublist_cons_self _ _).subperm
    | sequence tag items =>
      obtain ⟨lists, given, h⟩ := Fallible.bind_eq_ok.1 h
      cases h
      have turned := numbersOfEntries_perm (List.reverse_perm lists).flatten
      refine turned.subperm.trans ?_
      show List.Subperm _ (numbersOfItems items)
      rw [numbersOfItems_eq]
      refine mapM_subperm (fun n _ out h => ?_) given
      cases n with
      | mapping number tag inner => exact (ih h).trans (List.sublist_cons_self _ _).subperm
      | scalar tag text isPlain => cases h
      | sequence tag items => cases h

section

variable {places : Node → List (Position × Nat)}
  (each : ∀ n, ((places n).map Prod.snd).Subperm n.numbers)

theorem map_snd_under (b : Branch) (found : List (Position × Nat)) :
    (under b found).map Prod.snd = found.map Prod.snd := by
  rw [under, List.map_map]
  rfl

include each

/-- Of several values under one key the last one counts, and no number is new. -/
theorem foldl_entries_subperm {entries : List (Node × Node)} (found : List (Position × Nat)) :
    ((entries.foldl (fun found e =>
      match keyOf e.1 with
      | .error _ => found
      | .ok k => found.filter (fun m => !isUnder k m.1) ++ under (.entry k) (places e.2))
        found).map Prod.snd).Subperm (found.map Prod.snd ++ numbersOfEntries entries) := by
  induction entries generalizing found with
  | nil =>
    rw [List.foldl_nil, numbersOfEntries, List.append_nil]
  | cons e rest ih =>
    obtain ⟨k, v⟩ := e
    rw [List.foldl_cons, numbersOfEntries]
    refine (ih _).trans ?_
    rw [← List.append_assoc, ← List.append_assoc]
    refine List.Subperm.append ?_ (List.Subperm.refl _)
    dsimp only
    cases keyOf k with
    | error fault =>
      exact (List.sublist_append_of_sublist_left (List.sublist_append_left _ _)).subperm
    | ok key =>
      rw [List.map_append, List.append_assoc]
      refine List.Subperm.append (List.filter_sublist.map _).subperm ?_
      rw [map_snd_under]
      exact (each v).trans (List.sublist_append_right _ _).subperm

theorem placesOfEntries_subperm (entries : List (Node × Node)) :
    ((placesOfEntries places entries).map Prod.snd).Subperm (numbersOfEntries entries) :=
  foldl_entries_subperm each []

theorem placesOfPair_subperm (n : Node) :
    ((placesOfPair places n).map Prod.snd).Subperm n.numbers := by
  rw [placesOfPair.eq_def]
  split
  · rename_i number tag k v
    rw [List.map_append, map_snd_under, map_snd_under, Node.numbers, numbersOfEntries,
      numbersOfEntries, List.append_nil]
    exact ((each k).append (each v)).trans (List.sublist_cons_self _ _).subperm
  · exact List.nil_subperm

theorem placesOfItems_subperm (items : List Node) :
    ((placesOfItems places items).map Prod.snd).Subperm (numbersOfItems items) := by
  have numbered : ∀ list : List (Node × Nat), ((list.flatMap fun e =>
      under (.item e.2) (places e.1)).map Prod.snd).Subperm
        (numbersOfItems (list.map Prod.fst)) := by
    intro list
    induction list with
    | nil => exact List.nil_subperm
    | cons first rest ih =>
      rw [List.flatMap_cons, List.map_append, List.map_cons, numbersOfItems, map_snd_under]
      exact (each first.1).append ih
  have all := numbered items.zipIdx
  rw [List.zipIdx_map_fst] at all
  exact all

end

/-- The mappings in the value of a node are some of those in the node. -/
theorem mappings_subperm (steps : Nat) (n : Node) :
    ((n.mappings steps).map Prod.snd).Subperm n.numbers := by
  induction steps generalizing n with
  | zero => exact List.nil_subperm
  | succ steps ih =>
    rw [Node.mappings.eq_def]
    dsimp only
    split
    · exact placesOfItems_subperm ih _
    · exact placesOfItems_subperm (placesOfPair_subperm ih) _
    · rename_i number tag entries same
      rw [List.map_cons, Node.numbers]
      refine (List.subperm_cons number).2 ((placesOfEntries_subperm ih _).trans ?_)
      cases taken : flatten steps entries with
      | error fault => exact List.nil_subperm
      | ok all => exact flatten_subperm taken
    · exact List.nil_subperm

/-! ## §5 Ties -/

/-- Mappings that have different numbers are not tied. -/
theorem tiesOf_eq_nil {found : List (Position × Nat)} (apart : (found.map Prod.snd).Nodup) :
    tiesOf found = [] := by
  rw [tiesOf, List.filter_eq_nil_iff]
  intro tied h
  obtain ⟨number, -, rfl⟩ := List.mem_map.1 h
  have once : (found.map Prod.snd).count number ≤ 1 := List.nodup_iff_count_le_one.1 apart number
  rw [List.count, List.countP_map, List.countP_eq_length_filter] at once
  simpa [Function.comp_def] using once

/-- **Without an alias nothing stands at two positions.** In the value of a text that has
no alias no mapping is tied to another. -/
theorem ties_eq_nil {text : String}
    (free : ∀ ts, tokens text.toList = .ok ts → ∀ a, Token.alias a ∉ ts) : ties text = [] := by
  rw [ties]
  split
  · rename_i ts n read
    obtain ⟨ts, cut, read⟩ := Fallible.bind_eq_ok.1 read
    obtain ⟨node, read, same⟩ := Fallible.bind_eq_ok.1 read
    obtain ⟨rfl, rfl⟩ := Prod.mk.inj (Except.ok.inj same)
    have nodup := numbers_nodup (free ts cut) read
    obtain ⟨kept, perm, part⟩ := mappings_subperm (stepsFor ts) n
    exact tiesOf_eq_nil (perm.nodup (nodup.sublist part))
  · rfl

end TreeSift.Document
