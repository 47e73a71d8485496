/-
  TreeSift.Proofs.Document.Faults — where the faults of a text come from.

  Besides breaking the rules of the format, a text can be at fault in few ways. Where it is
  cut, a number or a character may not exist, for which a token is missing then
  (`Token.broken`). The readers of tokens run out of room, which takes as many tokens as
  there was room, or meet the name of what they are within (`readKeeps`). Last, a node may
  stand for no scalar (`Node.begin`), and what fills collections passes on the faults of the
  nodes within (`hasCause_of_value`).

    §1 Readers   `Stops`, `Keeps`, `readKeeps`
    §2 Documents `stops_ofTokens`
    §3 Parts     `Node.Within`, `all_eq_error`
    §4 Values    `HasCause`, `hasCause_of_value`
    §5 Scalars   `ScalarFault.Befits`, `befits_of_begin`
    §6 Texts     `StemsFrom`, `stemsFrom_of_read`, `stemsFrom_of_readByPieces`
-/
import TreeSift.Document.Pieces
import TreeSift.Proofs.Document.Shared

namespace TreeSift.Document

/-! ## §1 Readers -/

/-- A fault that stops a reader with some room: the format is not kept to, collections lie
as deep within one another as there is room, for which there have to be tokens, something
lies within itself, or a token is missing for the fault. -/
inductive Stops (room : Nat) (r : NodeReader) : Fault → Prop
  | malformed : Stops room r .malformed
  | tooDeep (long : room ≤ r.rest.length) : Stops room r .tooDeep
  | beyond {a : String} (named : .alias a ∈ r.rest) : Stops room r .beyond
  | missing {f : Fault} (missing : .broken f ∈ r.rest) : Stops room r f

namespace Stops

variable {room inner : Nat} {r middle : NodeReader} {f : Fault}

theorem later (suffix : middle.rest <:+ r.rest) (h : Stops room middle f) : Stops room r f := by
  cases h with
  | malformed => exact .malformed
  | tooDeep long => exact .tooDeep (Nat.le_trans long suffix.length_le)
  | beyond named => exact .beyond (suffix.mem named)
  | missing missing => exact .missing (suffix.mem missing)

theorem narrower (le : room ≤ inner) (h : Stops inner r f) : Stops room r f := by
  cases h with
  | malformed => exact .malformed
  | tooDeep long => exact .tooDeep (Nat.le_trans le long)
  | beyond named => exact .beyond named
  | missing missing => exact .missing missing

/-- What stops a reader after a token stops one before it that has room for one level more. -/
theorem deeper (le : room ≤ inner + 1) (more : r.rest ≠ []) (h : Stops inner r.skip f) :
    Stops room r f := by
  cases h with
  | malformed => exact .malformed
  | tooDeep long =>
    have shorter : r.skip.rest.length = r.rest.length - 1 := List.length_tail
    have some : 0 < r.rest.length := List.length_pos_iff.2 more
    exact .tooDeep (by omega)
  | beyond named => exact .beyond ((Numbered.skip_suffix r).mem named)
  | missing missing => exact .missing ((Numbered.skip_suffix r).mem missing)

end Stops

/-- A reader takes tokens away from the front, and stops for what stops a reader. -/
structure Keeps {α : Type} (room : Nat) (r : NodeReader) (x : Except Fault (α × NodeReader)) :
    Prop where
  suffix : ∀ {a left}, x = .ok (a, left) → left.rest <:+ r.rest
  stops : ∀ {f}, x = .error f → Stops room r f

namespace Keeps

variable {α β : Type} {room inner : Nat} {r middle : NodeReader}

theorem pure {a : α} {left : NodeReader} (suffix : left.rest <:+ r.rest) :
    Keeps room r (.ok (a, left)) := ⟨by rintro _ _ ⟨⟩; exact suffix, nofun⟩

theorem error {f : Fault} (stops : Stops room r f) : Keeps (α := α) room r (.error f) :=
  ⟨nofun, by rintro _ ⟨⟩; exact stops⟩

/-- What is read after some tokens. -/
theorem later {x : Except Fault (α × NodeReader)} (suffix : middle.rest <:+ r.rest)
    (h : Keeps room middle x) : Keeps room r x :=
  ⟨fun same => (h.suffix same).trans suffix, fun same => (h.stops same).later suffix⟩

theorem narrower {x : Except Fault (α × NodeReader)} (le : room ≤ inner) (h : Keeps inner r x) :
    Keeps room r x := ⟨h.suffix, fun same => (h.stops same).narrower le⟩

/-- What is read after a token, with room for one level less. -/
theorem deeper {x : Except Fault (α × NodeReader)} (le : room ≤ inner + 1) (more : r.rest ≠ [])
    (h : Keeps inner r.skip x) : Keeps room r x :=
  ⟨fun same => (h.suffix same).trans (Numbered.skip_suffix r),
    fun same => (h.stops same).deeper le more⟩

theorem bind {x : Except Fault (α × NodeReader)}
    {k : α × NodeReader → Except Fault (β × NodeReader)} (first : Keeps room r x)
    (next : ∀ a left, Keeps room left (k (a, left))) : Keeps room r (x >>= k) := by
  cases x with
  | error f => exact .error (first.stops rfl)
  | ok read =>
    obtain ⟨a, left⟩ := read
    exact (next a left).later (first.suffix rfl)

/-- What is found out before anything is read. -/
theorem after {x : Except Fault β} {k : β → Except Fault (α × NodeReader)}
    (stops : ∀ {f}, x = .error f → Stops room r f) (next : ∀ b, x = .ok b → Keeps room r (k b)) :
    Keeps room r (x >>= k) := by
  cases x with
  | error f => exact .error (stops rfl)
  | ok b => exact next b rfl

end Keeps

section

variable {α : Type} {room : Nat} {r : NodeReader} {f : Fault}

theorem ne_nil_of_sees {ts : List Token} (h : r.sees ts = true) : r.rest ≠ [] := by
  intro none
  rw [NodeReader.sees, none] at h
  cases h

theorem stops_refuse (h : (r.refuse : Except Fault α) = .error f) : Stops room r f := by
  rw [NodeReader.refuse] at h
  split at h
  · rename_i g rest next
    cases h
    exact .missing (next ▸ List.mem_cons_self)
  · cases h
    exact .malformed

theorem keeps_refuse (r : NodeReader) : Keeps room r (r.refuse : Except Fault (α × NodeReader)) :=
  ⟨fun h => absurd h (refuse_ne_ok r _), stops_refuse⟩

theorem stops_expectToken (h : r.expectToken = .error f) : Stops room r f := by
  rw [NodeReader.expectToken] at h
  split at h
  · rename_i g rest next
    cases h
    exact .missing (next ▸ List.mem_cons_self)
  · cases h

theorem stops_resolveTag {tag : Option (Option String × String)}
    (h : r.resolveTag tag = .error f) : Stops room r f := by
  rw [NodeReader.resolveTag.eq_def] at h
  split at h
  · cases h
  · cases h
  · split at h
    · cases h
    · cases h
      exact .malformed

theorem stops_announce {anchor : Option String} (h : r.announce anchor = .error f) :
    Stops room r f := by
  cases anchor with
  | none => cases h
  | some a =>
    rw [NodeReader.announce] at h
    split at h
    · cases h
      exact .malformed
    · cases h

theorem keeps_opening (r : NodeReader) : Keeps room r r.opening := by
  have suffix := properties_suffix r
  rw [NodeReader.opening]
  generalize r.properties = properties at suffix
  obtain ⟨anchor, tag, s⟩ := properties
  refine .later suffix (.after ?_ fun _ _ => .after stops_resolveTag fun tag _ =>
    .after stops_expectToken fun _ _ => .after stops_announce fun known given => ?_)
  · intro f h
    split at h
    · cases h
    · exact stops_expectToken h
  · exact .pure (rest_of_announce given ▸ List.suffix_refl _)

end

/-- With a number of steps, readers stop for what stops a reader. The items of a sequence
that is not indented come after a token of their own. -/
structure ReadKeeps (steps : Nat) : Prop where
  node : ∀ {room block indentless r},
    Keeps room r (NodeReader.node room block indentless steps r)
  nodeOrEmpty : ∀ {room block indentless stops r},
    Keeps room r (NodeReader.nodeOrEmpty room block indentless stops steps r)
  blockItems : ∀ {room items r}, Keeps room r (NodeReader.blockItems room items steps r)
  indentlessItems : ∀ {room items r},
    Keeps (room + 1) r (NodeReader.indentlessItems room items steps r)
  blockEntries : ∀ {room entries r}, Keeps room r (NodeReader.blockEntries room entries steps r)
  flowItems : ∀ {room first items r},
    Keeps room r (NodeReader.flowItems room first items steps r)
  flowEntries : ∀ {room first entries r},
    Keeps room r (NodeReader.flowEntries room first entries steps r)

section

variable {steps room : Nat} (ih : ReadKeeps steps)
include ih

theorem keeps_nodeOrEmpty {block indentless : Bool} {stops : List Token} {r : NodeReader} :
    Keeps room r (NodeReader.nodeOrEmpty room block indentless stops (steps + 1) r) := by
  rw [NodeReader.nodeOrEmpty]
  split
  · exact .pure (List.suffix_refl _)
  · exact ih.node

/-- The value of a key, where one may be missing. -/
theorem keeps_value {α : Type} {inner : Nat} {block indentless : Bool} {stops : List Token}
    {r : NodeReader} {go : Node × NodeReader → Except Fault (α × NodeReader)}
    (le : room ≤ inner + 1) (next : ∀ v left, Keeps room left (go (v, left))) :
    Keeps room r (if r.sees [.value] then
        NodeReader.nodeOrEmpty inner block indentless stops steps r.skip >>= go
      else pure (.empty, r) >>= go) := by
  split
  · rename_i sees
    exact .bind (.deeper le (ne_nil_of_sees sees) ih.nodeOrEmpty) next
  · exact next .empty r

theorem keeps_blockItems {items : List Node} {r : NodeReader} :
    Keeps room r (NodeReader.blockItems room items (steps + 1) r) := by
  rw [NodeReader.blockItems]
  split
  · exact .later (Numbered.skip_suffix r) (.bind ih.nodeOrEmpty fun _ _ => ih.blockItems)
  · exact .pure (Numbered.skip_suffix r)
  · exact keeps_refuse r

theorem keeps_indentlessItems {items : List Node} {r : NodeReader} :
    Keeps (room + 1) r (NodeReader.indentlessItems room items (steps + 1) r) := by
  rw [NodeReader.indentlessItems]
  split
  · rename_i rest next
    exact .bind (.deeper (Nat.le_refl _) (next ▸ List.cons_ne_nil _ _) ih.nodeOrEmpty) fun _ _ =>
      ih.indentlessItems
  · exact .pure (List.suffix_refl _)

theorem keeps_blockEntries {entries : List (Node × Node)} {r : NodeReader} :
    Keeps room r (NodeReader.blockEntries room entries (steps + 1) r) := by
  rw [NodeReader.blockEntries]
  split
  · exact .later (Numbered.skip_suffix r) (.bind ih.nodeOrEmpty fun _ _ =>
      keeps_value ih (Nat.le_succ _) fun _ _ => ih.blockEntries)
  · exact .pure (Numbered.skip_suffix r)
  · exact keeps_refuse r

theorem keeps_flowItems {first : Bool} {items : List Node} {r : NodeReader} :
    Keeps room r (NodeReader.flowItems room first items (steps + 1) r) := by
  rw [NodeReader.flowItems]
  split
  · exact .pure (Numbered.skip_suffix r)
  split
  · exact keeps_refuse r
  have suffix := begin_suffix first r
  generalize (if first = true then r else r.skip) = s at suffix
  refine .later suffix ?_
  dsimp only
  have le : room ≤ room - 1 + 1 := by omega
  split
  · -- A pair among the items is a level of its own, so its parts have room for one less.
    rename_i sees
    exact .bind (.deeper le (ne_nil_of_sees sees) ih.nodeOrEmpty) fun _ _ =>
      keeps_value ih le fun _ _ => ih.flowItems
  split
  · exact .pure (Numbered.skip_suffix s)
  · exact .bind ih.node fun _ _ => ih.flowItems

theorem keeps_flowEntries {first : Bool} {entries : List (Node × Node)} {r : NodeReader} :
    Keeps room r (NodeReader.flowEntries room first entries (steps + 1) r) := by
  rw [NodeReader.flowEntries]
  split
  · exact .pure (Numbered.skip_suffix r)
  split
  · exact keeps_refuse r
  have suffix := begin_suffix first r
  generalize (if first = true then r else r.skip) = s at suffix
  refine .later suffix ?_
  dsimp only
  split
  · exact .later (Numbered.skip_suffix s) (.bind ih.nodeOrEmpty fun _ _ =>
      keeps_value ih (Nat.le_succ _) fun _ _ => ih.flowEntries)
  split
  · exact .pure (Numbered.skip_suffix s)
  · exact .bind ih.node fun _ _ => ih.flowEntries

theorem keeps_node {block indentless : Bool} {r : NodeReader} :
    Keeps room r (NodeReader.node room block indentless (steps + 1) r) := by
  rw [NodeReader.node]
  split
  · rename_i a rest next
    split
    · exact .pure (next ▸ List.suffix_cons _ _)
    · exact .error (.beyond (next ▸ List.mem_cons_self))
    · exact .error .malformed
  · refine .after (fun h => ?_) fun _ _ => .bind (keeps_opening r) fun properties s => ?_
    · split at h
      · rename_i none
        cases h
        exact .tooDeep (none ▸ Nat.zero_le _)
      · cases h
    · obtain ⟨anchor, tag⟩ := properties
      have settled : ∀ (left : NodeReader) (n : Node), Keeps room left
          (Except.ok (n, left.settle anchor n) : Except Fault (Node × NodeReader)) :=
        fun left n => .pure (rest_settle left anchor n ▸ List.suffix_refl _)
      -- The parts have room for a level less, but come after a token that opens the node.
      have le : room ≤ room - 1 + 1 := by omega
      dsimp only
      split
      · exact .later (Numbered.skip_suffix s) (settled _ _)
      · rename_i next
        exact .bind (.deeper le (next ▸ List.cons_ne_nil _ _) ih.flowItems) fun _ _ => settled _ _
      · rename_i next
        exact .bind (.deeper le (next ▸ List.cons_ne_nil _ _) ih.flowEntries) fun _ _ =>
          settled _ _
      · rename_i next
        have more : s.rest ≠ [] := next ▸ List.cons_ne_nil _ _
        split
        · -- No token opens this sequence; the first of its entries stands in for it.
          exact .bind (.narrower le ih.indentlessItems) fun _ _ => settled _ _
        split
        · exact .bind (.deeper le more ih.blockItems) fun _ _ => settled _ _
        split
        · exact .bind (.deeper le more ih.blockEntries) fun _ _ => settled _ _
        split
        · exact settled _ _
        · exact .error .malformed
      · split
        · exact settled _ _
        · exact .error .malformed

end

/-- Whatever the number of steps, readers stop for what stops a reader. -/
theorem readKeeps (steps : Nat) : ReadKeeps steps := by
  induction steps with
  | zero => constructor <;> (intros; exact .error .malformed)
  | succ steps ih =>
    exact ⟨keeps_node ih, keeps_nodeOrEmpty ih, keeps_blockItems ih, keeps_indentlessItems ih,
      keeps_blockEntries ih, keeps_flowItems ih, keeps_flowEntries ih⟩

/-! ## §2 Documents -/

theorem directives_eq_error {versioned : Bool} {known : Keyed String String} {ts : List Token}
    {f : Fault} (h : NodeReader.directives versioned known ts = .error f) : f = .malformed := by
  fun_induction NodeReader.directives versioned known ts with
  | case1 =>
    cases h
    rfl
  | case2 versioned known major later fits ih => exact ih h
  | case3 =>
    cases h
    rfl
  | case4 versioned known handle replacement later new ih => exact ih h
  | case5 versioned known later ih => exact ih h
  | case6 => cases h

theorem dropEnds_suffix (ts : List Token) : NodeReader.dropEnds ts <:+ ts := by
  fun_induction NodeReader.dropEnds ts with
  | case1 rest ih => exact ih.trans (List.suffix_cons _ _)
  | case2 => exact List.suffix_refl _

theorem stops_finish {room : Nat} {read : Node × NodeReader} {f : Fault}
    (h : NodeReader.finish read = .error f) : Stops room read.2 f := by
  rw [NodeReader.finish] at h
  split at h
  · cases h
  · rcases Fallible.bind_eq_error.1 h with own | ⟨⟨handles, rest⟩, opened, refused⟩
    · exact directives_eq_error own ▸ .malformed
    · have suffix := (suffix_of_directives opened).trans (dropEnds_suffix _)
      exact (stops_refuse refused).later suffix

/-- A document is not read for what stops the reader of its tokens. -/
theorem stops_ofTokens {ts : List Token} {f : Fault} (h : Node.ofTokens ts = .error f) :
    Stops Node.maxDepth ⟨ts, [], []⟩ f := by
  have whole : ∀ (steps : Nat) (r : NodeReader), r.rest <:+ ts →
      (NodeReader.node Node.maxDepth true false steps r >>= NodeReader.finish) = .error f →
      Stops Node.maxDepth ⟨ts, [], []⟩ f := by
    intro steps r suffix given
    have keeps : Keeps Node.maxDepth r (NodeReader.node Node.maxDepth true false steps r) :=
      (readKeeps steps).node
    rcases Fallible.bind_eq_error.1 given with own | ⟨⟨n, left⟩, read, last⟩
    · exact (keeps.stops own).later suffix
    · exact (stops_finish last).later ((keeps.suffix read).trans suffix)
  rw [Node.ofTokens, NodeReader.document.eq_def] at h
  dsimp only at h
  split at h
  · cases h
  iterate 2
    · rcases Fallible.bind_eq_error.1 h with own | ⟨⟨handles, rest⟩, opened, h⟩
      · exact directives_eq_error own ▸ .malformed
      have suffix := suffix_of_directives opened
      dsimp only at h suffix
      split at h
      · have suffix := (List.suffix_cons _ _).trans suffix
        split at h
        · exact (stops_finish h).later suffix
        · exact whole _ _ suffix h
      · exact (stops_refuse h).later suffix
  · exact whole _ _ (List.suffix_refl _) h

/-! ## §3 Parts -/

/-- A node is another one, or lies within it. -/
inductive Node.Within : Node → Node → Prop
  | self (n : Node) : Within n n
  | item {n m : Node} {tag : Option String} {items : List Node} (part : m ∈ items)
      (within : Within n m) : Within n (.sequence tag items)
  | key {n : Node} {number : Nat} {tag : Option String} {entries : List (Node × Node)}
      {e : Node × Node} (part : e ∈ entries) (within : Within n e.1) :
      Within n (.mapping number tag entries)
  | value {n : Node} {number : Nat} {tag : Option String} {entries : List (Node × Node)}
      {e : Node × Node} (part : e ∈ entries) (within : Within n e.2) :
      Within n (.mapping number tag entries)

theorem Node.Within.trans {n m k : Node} (first : n.Within m) (second : m.Within k) :
    n.Within k := by
  induction second with
  | self => exact first
  | item part _ ih => exact .item part ih
  | key part _ ih => exact .key part ih
  | value part _ ih => exact .value part ih

/-- The keys and values of some entries lie within a node. -/
def EntriesWithin (entries : List (Node × Node)) (n : Node) : Prop :=
  ∀ e ∈ entries, e.1.Within n ∧ e.2.Within n

theorem entriesWithin_mapping (number : Nat) (tag : Option String) (entries : List (Node × Node)) :
    EntriesWithin entries (.mapping number tag entries) :=
  fun _ he => ⟨.key he (.self _), .value he (.self _)⟩

theorem EntriesWithin.trans {entries : List (Node × Node)} {n m : Node}
    (h : EntriesWithin entries n) (within : n.Within m) : EntriesWithin entries m :=
  fun e he => ⟨(h e he).1.trans within, (h e he).2.trans within⟩

section

variable {α β γ : Type} {f : Found}

theorem both_eq_error {g : α → β → γ} {x : Except Found α} {y : Except Found β}
    (h : Found.both g x y = .error f) : x = .error f ∨ y = .error f := by
  cases x with
  | ok a =>
    cases y with
    | ok b => cases h
    | error e =>
      cases h
      exact .inr rfl
  | error e =>
    cases y with
    | ok b =>
      cases h
      exact .inl rfl
    | error e' =>
      obtain rfl := Except.error.inj h
      split
      · exact .inr rfl
      · exact .inl rfl

/-- The fault of several parts is that of one of them. -/
theorem all_eq_error {rs : List (Except Found α)} (h : Found.all rs = .error f) :
    .error f ∈ rs := by
  induction rs with
  | nil => cases h
  | cons r rest ih =>
    rcases both_eq_error h with first | later
    · exact first ▸ List.mem_cons_self
    · exact List.mem_cons_of_mem _ (ih later)

theorem here_eq_error {x : Except Fault α} (h : Found.here x = .error f) : x = .error f.fault := by
  obtain ⟨g, given, rfl⟩ := Fallible.mapError_eq_error.1 h
  exact given

theorem below_eq_error {x : Except Found α} (h : Found.below x = .error f) :
    ∃ g, x = .error g ∧ g.fault = f.fault := by
  obtain ⟨g, given, rfl⟩ := Fallible.mapError_eq_error.1 h
  exact ⟨g, given, rfl⟩

end

/-! ## §4 Values -/

/-- Entries are refused for taking in something that is no mapping. -/
theorem flatten_eq_error {steps : Nat} {entries : List (Node × Node)} {f : Fault}
    (h : flatten steps entries = .error f) : f = .malformed := by
  induction steps generalizing entries f with
  | zero =>
    cases h
    rfl
  | succ steps ih =>
    rw [flatten] at h
    rcases Fallible.bind_eq_error.1 h with refused | ⟨taken, -, h⟩
    · obtain ⟨e, -, refused⟩ := Fallible.exists_of_mapM_eq_error refused
      split at refused
      · exact ih refused
      · rcases Fallible.bind_eq_error.1 refused with refused | ⟨lists, -, h⟩
        · obtain ⟨n, -, refused⟩ := Fallible.exists_of_mapM_eq_error refused
          split at refused
          · exact ih refused
          · exact (Except.error.inj refused).symm
        · cases h
      · exact (Except.error.inj refused).symm
    · cases h

/-- The entries that a mapping takes in lie within the mapping, too. -/
theorem entriesWithin_flatten {steps : Nat} {entries all : List (Node × Node)} {n : Node}
    (within : EntriesWithin entries n) (h : flatten steps entries = .ok all) :
    EntriesWithin all n := by
  induction steps generalizing entries all n with
  | zero => cases h
  | succ steps ih =>
    rw [flatten] at h
    obtain ⟨taken, given, h⟩ := Fallible.bind_eq_ok.1 h
    cases h
    intro e he
    -- An entry is taken in from a mapping under a merging key, or is one of those given.
    rcases List.mem_append.1 he with he | he
    · obtain ⟨out, hout, he⟩ := List.mem_flatten.1 he
      obtain ⟨source, hs, given⟩ := Fallible.exists_of_mem_mapM given hout
      have place := (within source (List.mem_filter.1 hs).1).2
      split at given
      · rename_i number tag inner same
        exact (ih (entriesWithin_mapping number tag inner) given).trans (same ▸ place) e he
      · rename_i tag items same
        obtain ⟨lists, listed, same'⟩ := Fallible.bind_eq_ok.1 given
        cases same'
        obtain ⟨one, hone, he⟩ := List.mem_flatten.1 he
        obtain ⟨m, hm, given⟩ := Fallible.exists_of_mem_mapM listed (List.mem_reverse.1 hone)
        split at given
        · rename_i number mtag inner
          have part : Node.Within (.mapping number mtag inner) (.sequence tag items) :=
            .item hm (.self _)
          exact (ih (entriesWithin_mapping number mtag inner) given).trans
            (part.trans (same ▸ place)) e he
        · cases given
      · cases given
    · exact within e (List.mem_filter.1 he).1

/-- A node that is to be a key is no scalar, or has no value. -/
theorem keyOf_eq_error {n : Node} {f : Fault} (h : keyOf n = .error f) :
    f = .malformed ∨ n.begin = .error f := by
  rw [keyOf] at h
  split at h
  · split at h
    · cases h
    · cases h
      exact .inl rfl
  · rcases Fallible.bind_eq_error.1 h with own | ⟨begun, -, h⟩
    · exact .inr own
    · split at h
      · cases h
      · cases h
        exact .inl rfl

/-- Where a fault of the value of a node comes from: the format is not kept to, or a node
within stands for no scalar. -/
def HasCause (n : Node) (f : Fault) : Prop :=
  f = .malformed ∨ ∃ m : Node, m.Within n ∧ m.begin = .error f

theorem HasCause.trans {n m : Node} {f : Fault} (h : HasCause n f) (within : n.Within m) :
    HasCause m f := h.imp_right fun ⟨k, part, given⟩ => ⟨k, part.trans within, given⟩

theorem hasCause_of_begin {n : Node} {f : Fault} (h : n.begin = .error f) : HasCause n f :=
  .inr ⟨n, .self n, h⟩

section

variable {value : Node → Except Found Value}
  (each : ∀ m f, value m = .error f → HasCause m f.fault)
include each

theorem hasCause_of_writings {entries : List (Node × Node)} {n : Node} {f : Found}
    (within : EntriesWithin entries n) (h : writingsOf value entries = .error f) :
    HasCause n f.fault := by
  obtain ⟨e, he, given⟩ := List.mem_map.1 (all_eq_error h)
  obtain ⟨k, v⟩ := within e he
  rcases both_eq_error given with key | other
  · rcases keyOf_eq_error (here_eq_error key) with own | begun
    · exact .inl own
    · exact (hasCause_of_begin begun).trans k
  · exact (each _ _ other).trans v

theorem hasCause_of_pair {n : Node} {f : Found} (h : pairOf value n = .error f) :
    HasCause n f.fault := by
  rw [pairOf.eq_def] at h
  split at h
  · rename_i number tag k v
    have within := entriesWithin_mapping number tag [(k, v)] (k, v) List.mem_cons_self
    rcases both_eq_error h with first | second
    · exact (each _ _ first).trans within.1
    · exact (each _ _ second).trans within.2
  · cases h
    exact .inl rfl

theorem hasCause_of_fill {steps : Nat} {n : Node} {f : Found}
    (h : n.fill value steps = .error f) : HasCause n f.fault := by
  -- Mappings and sets are filled alike, but for what is made of their writings.
  have mapping : ∀ {number tag entries} {make : List (Scalar × Value) → Value},
      (do let writings ← writingsOf value (← Found.here (flatten steps entries))
          return make writings) = .error f → HasCause (.mapping number tag entries) f.fault := by
    intro number tag entries make given
    rcases Fallible.bind_eq_error.1 given with refused | ⟨all, taken, given⟩
    · exact .inl (flatten_eq_error (here_eq_error refused))
    · have within := entriesWithin_flatten (entriesWithin_mapping number tag entries)
        (Fallible.mapError_eq_ok.1 taken)
      rcases Fallible.bind_eq_error.1 given with refused | ⟨writings, -, given⟩
      · exact hasCause_of_writings each within refused
      · cases given
  rw [Node.fill.eq_def] at h
  split at h
  · obtain ⟨m, hm, given⟩ := List.mem_map.1 (all_eq_error (Fallible.map_eq_error.1 h))
    exact (each _ _ given).trans (.item hm (.self _))
  · obtain ⟨m, hm, given⟩ := List.mem_map.1 (all_eq_error (Fallible.map_eq_error.1 h))
    exact (hasCause_of_pair each given).trans (.item hm (.self _))
  · exact mapping h
  · exact mapping h
  · cases h
    exact .inl rfl

end

/-- The value of a node has the faults of the nodes within. -/
theorem hasCause_of_value {steps : Nat} {n : Node} {f : Found}
    (h : n.value steps = .error f) : HasCause n f.fault := by
  induction steps generalizing n f with
  | zero =>
    cases h
    exact .inl rfl
  | succ steps ih =>
    rw [Node.value] at h
    split at h
    · rename_i g begun
      cases h
      exact hasCause_of_begin begun
    · cases h
    · obtain ⟨g, filled, same⟩ := below_eq_error h
      exact same ▸ hasCause_of_fill (fun m f given => ih given) filled

/-! ## §5 Scalars -/

/-- What a node has to be said to be for a fault of its scalar. -/
inductive ScalarFault.Befits (n : Node) : ScalarFault → Prop
  | noTruth {text : String} (tag : n.tag = .flag) (own : n.text? = some text)
      (noWord : ∀ w ∈ truthWords, w.1 ≠ Text.lower text) : Befits n (.noTruth (Text.lower text))
  | nothing (tag : n.tag = .int ∨ n.tag = .real) : Befits n .nothing
  | noValue {message : String} (tag : n.tag = .int ∨ n.tag = .real ∨ n.tag = .moment) :
      Befits n (.noValue message)
  | tooLarge {message : String} (tag : n.tag = .real) : Befits n (.tooLarge message)
  | noDate {text : String} (tag : n.tag = .moment) (own : n.text? = some text)
      (noParts : Moment.parts? (withoutBreak text.toList) = none) : Befits n .noDate
  | mappingForDate (tag : n.tag = .moment) (mapping : n.isMapping = true) :
      Befits n .mappingForDate

theorem truthOf_eq_error {s : String} {b : ScalarFault} (h : truthOf s = .error b) :
    b = .noTruth (Text.lower s) ∧ ∀ w ∈ truthWords, w.1 ≠ Text.lower s := by
  rw [truthOf] at h
  split at h
  · cases h
  · rename_i unknown
    exact ⟨(Except.error.inj h).symm, fun w hw => by simpa using List.find?_eq_none.1 unknown w hw⟩

theorem afterSign_eq_error {s : List Char} {b : ScalarFault} (h : afterSign s = .error b) :
    b = .nothing := by
  rw [afterSign] at h
  split at h
  · exact (Except.error.inj h).symm
  · cases h

theorem basedOf_eq_error {base : Nat} {s : List Char} {b : ScalarFault}
    (h : basedOf base s = .error b) : ∃ message, b = .noValue message := by
  obtain ⟨message, -, rfl⟩ := Fallible.mapError_eq_error.1 h
  exact ⟨message, rfl⟩

/-- A text is no whole number because it ends too early or there is no such number. -/
theorem integerOf_eq_error {s : String} {b : ScalarFault} (h : integerOf s = .error b) :
    b = .nothing ∨ ∃ message, b = .noValue message := by
  rw [integerOf] at h
  rcases Fallible.bind_eq_error.1 h with early | ⟨⟨negative, rest⟩, -, h⟩
  · exact .inl (afterSign_eq_error early)
  rcases Fallible.bind_eq_error.1 h with refused | ⟨n, -, h⟩
  · rw [magnitudeOf.eq_def] at refused
    split at refused
    · exact .inl (Except.error.inj refused).symm
    · cases refused
    · exact .inr (basedOf_eq_error refused)
    · exact .inr (basedOf_eq_error refused)
    · exact .inr (basedOf_eq_error refused)
    · split at refused
      · rcases Fallible.bind_eq_error.1 refused with digit | ⟨digits, -, h⟩
        · obtain ⟨piece, -, refused⟩ := Fallible.exists_of_mapM_eq_error digit
          exact .inr (basedOf_eq_error refused)
        · cases h
      · exact .inr (basedOf_eq_error refused)
  · cases h

theorem sexagesimal_eq_error {digits : List Binary64} {b : ScalarFault}
    (h : sexagesimal digits = .error b) : ∃ message, b = .tooLarge message := by
  rw [sexagesimal] at h
  dsimp only at h
  split at h
  · exact ⟨_, (Except.error.inj h).symm⟩
  · cases h

theorem decimalOf_eq_error {s : List Char} {b : ScalarFault} (h : decimalOf s = .error b) :
    ∃ message, b = .noValue message := by
  rw [decimalOf] at h
  split at h
  · cases h
  · exact ⟨_, (Except.error.inj h).symm⟩

/-- A text is no number with a fraction because it is empty or there is no such number, or
because it is too large. -/
theorem realOf_eq_error {s : String} {b : ScalarFault} (h : realOf s = .error b) :
    b = .nothing ∨ (∃ message, b = .noValue message) ∨ ∃ message, b = .tooLarge message := by
  rw [realOf] at h
  rcases Fallible.bind_eq_error.1 h with early | ⟨⟨negative, rest⟩, -, h⟩
  · exact .inl (afterSign_eq_error early)
  refine .inr ?_
  rcases Fallible.bind_eq_error.1 h with refused | ⟨x, -, h⟩
  · rw [amountOf] at refused
    split at refused
    · cases refused
    split at refused
    · cases refused
    split at refused
    · rcases Fallible.bind_eq_error.1 refused with digit | ⟨digits, -, large⟩
      · obtain ⟨piece, -, refused⟩ := Fallible.exists_of_mapM_eq_error digit
        exact .inl (decimalOf_eq_error refused)
      · exact .inr (sexagesimal_eq_error large)
    · exact .inl (decimalOf_eq_error refused)
  · cases h

theorem momentOf_eq_error {s : String} {b : ScalarFault} (h : momentOf s = .error b) :
    b = .noDate ∧ Moment.parts? (withoutBreak s.toList) = none ∨
      ∃ message, b = .noValue message := by
  rw [momentOf] at h
  split at h
  · rename_i noParts
    exact .inl ⟨(Except.error.inj h).symm, noParts⟩
  · split at h
    · exact .inr ⟨_, (Except.error.inj h).symm⟩
    · cases h

theorem bytesOf_eq_error {s : String} {f : Fault} (h : bytesOf s = .error f) :
    f = .malformed := by
  rw [bytesOf] at h
  split at h
  · split at h
    · cases h
    · exact (Except.error.inj h).symm
  · exact (Except.error.inj h).symm

/-- The fault of a scalar befits what its node is said to be. -/
theorem befits_of_begin {n : Node} {b : ScalarFault} (h : n.begin = .error (.badScalar b)) :
    b.Befits n := by
  have own : ∀ {α : Type} {x : Except ScalarFault α} {make : α → Scalar},
      ((x.map make).mapError Fault.badScalar).map some = .error (.badScalar b) → x = .error b := by
    intro α x make given
    obtain ⟨c, refused, same⟩ := Fallible.mapError_eq_error.1 (Fallible.map_eq_error.1 given)
    exact Fault.badScalar.inj same ▸ Fallible.map_eq_error.1 refused
  rw [Node.begin] at h
  generalize tagged : n.tag = tag at h
  split at h
  iterate 4
    · cases h
  split at h
  · cases h
  rename_i text given
  split at h
  · rename_i date
    obtain ⟨rfl, mapping⟩ := by simpa using date
    cases h
    exact .mappingForDate tagged mapping
  rw [scalarOf.eq_def] at h
  split at h
  · cases h
  · obtain ⟨rfl, noWord⟩ := truthOf_eq_error (own h)
    exact .noTruth tagged given noWord
  · rcases integerOf_eq_error (own h) with rfl | ⟨message, rfl⟩
    · exact .nothing (.inl tagged)
    · exact .noValue (.inl tagged)
  · rcases realOf_eq_error (own h) with rfl | ⟨message, rfl⟩ | ⟨message, rfl⟩
    · exact .nothing (.inr tagged)
    · exact .noValue (.inr (.inl tagged))
    · exact .tooLarge tagged
  · have refused := Fallible.map_eq_error.1 (Fallible.map_eq_error.1 h)
    cases bytesOf_eq_error refused
  · rcases momentOf_eq_error (own h) with ⟨rfl, noParts⟩ | ⟨message, rfl⟩
    · exact .noDate tagged given noParts
    · exact .noValue (.inr (.inr tagged))
  · cases h
  · cases h

/-! ## §6 Texts -/

/-- Where a fault of a text with some tokens comes from: the format is not kept to, there
are tokens for collections that lie too deep, something may lie within itself, a token is
missing for the fault, or a node in what the tokens make stands for no scalar. -/
inductive StemsFrom (ts : List Token) : Fault → Prop
  | malformed : StemsFrom ts .malformed
  | tooDeep (long : Node.maxDepth ≤ ts.length) : StemsFrom ts .tooDeep
  | beyond {a : String} (named : .alias a ∈ ts) : StemsFrom ts .beyond
  | missing {f : Fault} (missing : .broken f ∈ ts) : StemsFrom ts f
  | scalar {n m : Node} {f : Fault} (made : Node.ofTokens ts = .ok (some n))
      (within : m.Within n) (begun : m.begin = .error f) : StemsFrom ts f

theorem stemsFrom_of_ofTokens {ts : List Token} {f : Fault} (h : Node.ofTokens ts = .error f) :
    StemsFrom ts f := by
  cases stops_ofTokens h with
  | malformed => exact .malformed
  | tooDeep long => exact .tooDeep long
  | beyond named => exact .beyond named
  | missing missing => exact .missing missing

theorem Fault.whole_cases (f : Fault) : f.whole = .malformed ∨ f.whole = f := by
  cases f <;> simp [whole]

/-- The faults of a text stem from its tokens. -/
theorem stemsFrom_of_read {text : String} {f : Fault} (h : read text = .error f) :
    StemsFrom (tokensInTurn text.toList) f := by
  obtain ⟨g, given, rfl⟩ := Fallible.mapError_eq_error.1 h
  rcases g.whole_cases with whole | whole
  · rw [whole]
    exact .malformed
  rw [whole]
  rw [valueOf] at given
  rcases Fallible.bind_eq_error.1 given with unread | ⟨made, read, valued⟩
  · exact stemsFrom_of_ofTokens unread
  · cases made with
    | none => cases valued
    | some n =>
      obtain ⟨found, refused, rfl⟩ := Fallible.mapError_eq_error.1 valued
      rcases hasCause_of_value refused with own | ⟨m, within, begun⟩
      · rw [own]
        exact .malformed
      · exact .scalar read within begun

/-- The faults of the beginning of a text stem from its tokens. -/
theorem stemsFrom_of_faultBefore {part : List Char} {f : Fault} (h : faultBefore part = some f) :
    StemsFrom (tokensBefore part) f := by
  unfold faultBefore at h
  generalize tokensBefore part = ts at h ⊢
  cases given : Node.ofTokens ts with
  | ok read =>
    rw [given] at h
    cases h
  | error g =>
    rw [given] at h
    cases g with
    | ended => cases h
    | _ =>
      obtain rfl := Option.some.inj h
      exact stemsFrom_of_ofTokens given

theorem stemsFrom_of_faultOfPart {part : List Char} {f : Fault} (h : faultOfPart part = some f) :
    StemsFrom (tokensBefore (part.takeWhile isAllowed)) f := by
  rw [faultOfPart] at h
  rcases Option.or_eq_some_iff.1 h with earlier | ⟨-, h⟩
  · exact stemsFrom_of_faultBefore earlier
  · split at h
    · cases h
      exact .malformed
    · cases h

/-- The faults of a text that is read piece by piece stem from its tokens, or from those
before the first character that may not stand there. -/
theorem stemsFrom_of_readByPieces {text : String} {f : Fault}
    (h : readByPieces text = .error f) :
    StemsFrom (tokensInTurn text.toList) f ∨
      StemsFrom (tokensBefore (text.toList.takeWhile isAllowed)) f := by
  unfold readByPieces at h
  split at h
  · exact .inl (stemsFrom_of_read h)
  · refine .inr ?_
    cases earlier : faultBefore (text.toList.takeWhile isAllowed) with
    | none =>
      rw [earlier] at h
      cases h
      exact .malformed
    | some g =>
      rw [earlier] at h
      cases h
      exact stemsFrom_of_faultBefore earlier

end TreeSift.Document
