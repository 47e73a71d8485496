/-
  TreeSift.Proofs.Regex.ReadParts — repeats, flags and openings read side by side.

  What the reader takes between two nodes of a sequence holds no separator that
  means anything: numbers and flags are read alike, a group name with a slash is
  refused, and a comment is skipped whatever it says. Readers that count the steps
  they may take have more of them in the escaped form, which is longer.

    §1 Repeats   `follows_readRepeat`
    §2 Flags     `follows_readFlags`
    §3 Groups    `follows_openGroup`, `follows_readConditionGroup`
    §4 Openings  `SameOpening`, `follows_readOpening`
    §5 Comments  `follows_skipLine`, `follows_skipComment`
-/
import TreeSift.Proofs.Regex.ReadAtoms

namespace TreeSift.Regex.Reader

variable {s t : ReaderState}

/-! ## §1 Repeats -/

theorem follows_readCount (beside : s.Beside t) (digits : List Char) :
    Follows s t Eq (readCount digits) (readCount digits) := by
  refine .ite Iff.rfl (fun _ => .pure beside fun _ => rfl) fun _ => ?_
  refine .ite Iff.rfl (fun _ => .refused nofun) fun _ => ?_
  refine .ite Iff.rfl (fun _ => .refused nofun) fun _ => ?_
  exact .pure beside fun _ => rfl

theorem follows_closeBounds {start start' : ReaderState} (starts : start.Beside start')
    (beside : s.Beside t) (here here' : Nat) (low high : List Char) :
    Follows s t Eq (closeBounds start here low high) (closeBounds start' here' low high) := by
  refine .bindSame (follows_accept beside (by decide)) fun a _ _ beside => ?_
  refine .ite Iff.rfl (fun _ => ?_) fun _ => ?_
  · -- Without the closing brace both go back to where the numbers begin.
    exact .bind (follows_set starts) fun _ beside _ => .pure beside fun _ => rfl
  refine .bindSame (follows_readCount beside low) fun least _ _ beside => ?_
  refine .bindSame (follows_readCount beside high) fun most _ _ beside => ?_
  cases least with
  | none => exact .pure beside fun _ => rfl
  | some l =>
    cases most with
    | none => exact .pure beside fun _ => rfl
    | some m =>
      exact .ite Iff.rfl (fun _ => .refused nofun) fun _ => .pure beside fun _ => rfl

theorem follows_readBounds (beside : s.Beside t) (quantifier : Char) (here here' : Nat) :
    Follows s t Eq (readBounds quantifier here) (readBounds quantifier here') := by
  unfold readBounds
  split
  iterate 3 exact .pure beside fun _ => rfl
  refine .bind (follows_get beside) fun {start start' _ _} starts beside _ => ?_
  refine .ite (SameToken.eq_char_iff starts.cursor.next (by decide))
    (fun _ => .pure beside fun _ => rfl) fun _ => ?_
  refine .bind (follows_room beside) fun rooms beside ran => ?_
  cases ran
  refine .bindSame (follows_takeWhile beside (by decide) fun _ =>
    ⟨Cursor.within_room _, rooms.2⟩) fun low _ _ beside => ?_
  refine .bindSame (follows_accept beside (by decide)) fun a _ _ beside => ?_
  refine .ite Iff.rfl (fun _ => ?_) fun _ => ?_
  · refine .bind (follows_room beside) fun rooms beside ran => ?_
    cases ran
    refine .bindSame (follows_takeWhile beside (by decide) fun _ =>
      ⟨Cursor.within_room _, rooms.2⟩) fun high _ _ beside => ?_
    exact follows_closeBounds starts beside here here' low high
  · exact follows_closeBounds starts beside here here' low low

theorem follows_readGreed (beside : s.Beside t) : Follows s t Eq readGreed readGreed := by
  refine .bindSame (follows_accept beside (by decide)) fun a _ _ beside => ?_
  refine .ite Iff.rfl (fun _ => .pure beside fun _ => rfl) fun _ => ?_
  refine .bindSame (follows_accept beside (by decide)) fun a _ _ beside => ?_
  exact .ite Iff.rfl (fun _ => .pure beside fun _ => rfl) fun _ => .pure beside fun _ => rfl

theorem repeatBody_turned (n : Node) : repeatBody n.turned = (repeatBody n).turned := by
  cases n with
  | group index added removed body =>
    cases index with
    | some g => rfl
    | none =>
      cases added with
      | cons => rfl
      | nil => cases removed <;> rfl
  | _ => rfl

theorem turned_code {c : Char} (slash : c ≠ '/') (backslash : c ≠ '\\') :
    (Node.atom (.code c.toNat)).turned = .atom (.code c.toNat) := by
  rw [Node.turned, Atom.turned, turnCode_toNat slash backslash]

/-- Sequences of nodes, the one as the other with the separators exchanged. -/
def TurnedNodes (a b : List Node) : Prop := b = a.map Node.turned

theorem follows_readRepeat (beside : s.Beside t) {quantifier : Char} (slash : quantifier ≠ '/')
    (backslash : quantifier ≠ '\\') (here here' : Nat) (nodes : List Node) :
    Follows s t TurnedNodes (readRepeat quantifier here nodes)
      (readRepeat quantifier here' (nodes.map Node.turned)) := by
  refine .bindSame (follows_readBounds beside quantifier here here') fun bounds s t beside => ?_
  cases bounds with
  | none =>
    refine .pure beside fun _ => ?_
    rw [TurnedNodes, List.map_cons, turned_code slash backslash]
  | some bounds =>
    obtain ⟨least, most⟩ := bounds
    cases nodes with
    | nil => exact .refused nofun
    | cons last before =>
      have repeated : Follows s t TurnedNodes
          (do return .repeated (← readGreed) least most (repeatBody last) :: before)
          (do return .repeated (← readGreed) least most (repeatBody last.turned) ::
            before.map Node.turned) := by
        refine .bindSame (follows_readGreed beside) fun greed _ _ beside => ?_
        rw [repeatBody_turned]
        exact .pure beside fun _ => rfl
      cases last with
      | atom a =>
        cases a with
        | anchor => exact .refused nofun
        | _ => exact repeated
      | repeated => exact .refused nofun
      | _ => exact repeated

/-! ## §2 Flags -/

theorem failFlag_ne_ok {α : Type} {token : Token} {wanted : String} {r : α × ReaderState} :
    (failFlag token wanted : Reader α) s ≠ .ok r := fail_ne_ok

theorem follows_readAdded (beside : s.Beside t) (c : Char) (added : Flags) {steps steps' : Nat}
    (le : steps ≤ steps') :
    Follows s t Eq (readAdded c added steps) (readAdded c added steps') := by
  induction steps generalizing s t c added steps' with
  | zero => exact .refused nofun
  | succ steps ih =>
    obtain ⟨steps', rfl⟩ := Nat.exists_eq_add_one_of_ne_zero (Nat.ne_zero_of_lt le)
    replace le := Nat.le_of_succ_le_succ le
    unfold readAdded
    split
    · exact .refused nofun
    refine .ite Iff.rfl (fun _ => .refused nofun) fun _ => ?_
    refine .takeChar beside (fun _ _ => fail_ne_ok) (fun _ _ _ => failFlag_ne_ok)
      (fun _ _ => failFlag_ne_ok) fun d _ _ _ beside => ?_
    simp only
    split
    iterate 3 exact .pure beside fun _ => rfl
    · exact .ite Iff.rfl (fun _ => ih beside _ _ le) fun _ => .refused nofun
    · exact .refused nofun

theorem follows_readRemoved (beside : s.Beside t) (c : Char) (removed : Flags)
    {steps steps' : Nat} (le : steps ≤ steps') :
    Follows s t Eq (readRemoved c removed steps) (readRemoved c removed steps') := by
  induction steps generalizing s t c removed steps' with
  | zero => exact .refused nofun
  | succ steps ih =>
    obtain ⟨steps', rfl⟩ := Nat.exists_eq_add_one_of_ne_zero (Nat.ne_zero_of_lt le)
    replace le := Nat.le_of_succ_le_succ le
    unfold readRemoved
    split
    · exact .refused nofun
    refine .ite Iff.rfl (fun _ => .refused nofun) fun _ => ?_
    refine .takeChar beside (fun _ _ => fail_ne_ok) (fun _ _ _ => failFlag_ne_ok)
      (fun _ _ => failFlag_ne_ok) fun d _ _ _ beside => ?_
    simp only
    split
    · exact .pure beside fun _ => rfl
    · exact .ite Iff.rfl (fun _ => ih beside _ _ le) fun _ => .refused nofun
    · exact .refused nofun

theorem follows_closeFlags (beside : s.Beside t) (added : Flags) (closer : Char) :
    Follows s t Eq (closeFlags added closer) (closeFlags added closer) := by
  refine .ite Iff.rfl (fun _ => ?_) fun _ => ?_
  · refine .bind (follows_modify { beside with flags := ?_ }) fun _ beside _ => ?_
    · exact congrArg (fun flags => added.foldl (fun fs f => addFlag f fs) flags) beside.flags
    · exact .pure beside fun _ => rfl
  refine .ite Iff.rfl (fun _ => .refused nofun) fun _ => ?_
  refine .ite Iff.rfl (fun _ => .pure beside fun _ => rfl) fun _ => ?_
  refine .takeChar beside (fun _ _ => fail_ne_ok) (fun _ _ _ => failFlag_ne_ok)
    (fun _ _ => bind_ne_ok fun _ => failFlag_ne_ok) fun d _ _ _ beside => ?_
  refine .ite Iff.rfl (fun _ => .refused fun _ => bind_ne_ok fun _ => failFlag_ne_ok) fun _ => ?_
  refine .bind (follows_room beside) fun rooms beside _ => ?_
  refine .bindSame (follows_readRemoved beside d [] rooms.2) fun removed _ _ beside => ?_
  refine .ite Iff.rfl (fun _ => .refused nofun) fun _ => ?_
  exact .ite Iff.rfl (fun _ => .refused nofun) fun _ => .pure beside fun _ => rfl

theorem follows_readFlags (beside : s.Beside t) (c : Char) :
    Follows s t Eq (readFlags c) (readFlags c) := by
  refine .ite Iff.rfl (fun _ => follows_closeFlags beside [] '-') fun _ => ?_
  refine .bind (follows_room beside) fun rooms beside _ => ?_
  refine .bindSame (follows_readAdded beside c [] rooms.2) fun added _ _ beside => ?_
  exact follows_closeFlags beside added.1 added.2

/-! ## §3 Groups -/

theorem follows_openGroup (beside : s.Beside t) (name : Option String) :
    Follows s t Eq (openGroup name) (openGroup name) := by
  refine .bind (follows_get beside) fun {s₀ t₀ _ _} same _ _ => ?_
  rw [same.widths, same.names]
  refine .bind (follows_set { same with widths := rfl, names := rfl }) fun _ beside _ => ?_
  cases name with
  | none => exact .pure beside fun _ => rfl
  | some name =>
    simp only
    split
    · exact .refused nofun
    · refine .bind (follows_modify { beside with names := ?_ }) fun _ beside _ =>
        .pure beside fun _ => rfl
      exact congrArg (· ++ [(name, s₀.widths.length)]) beside.names

theorem follows_closeGroup (beside : s.Beside t) (index : Nat) (body : Node) :
    Follows s t (fun _ _ => True) (closeGroup index body) (closeGroup index body.turned) := by
  refine follows_modify { beside with widths := ?_ }
  rw [Node.width_turned, beside.widths]

/-- Groups that are asked for are looked up by their numbers alone. -/
theorem lookup_asked {a b : List (Nat × Nat)} (same : b.map Prod.fst = a.map Prod.fst)
    (index : Nat) : (b.lookup index).isSome = (a.lookup index).isSome := by
  have listed (l : List (Nat × Nat)) : (l.lookup index).isSome = (l.map Prod.fst).elem index := by
    induction l with
    | nil => rfl
    | cons entry rest ih =>
      rw [List.lookup_cons, List.map_cons, List.elem_cons]
      split
      · rfl
      · exact ih
  rw [listed, listed, same]

theorem follows_readConditionGroup (beside : s.Beside t) :
    Follows s t Eq readConditionGroup readConditionGroup := by
  refine .bind (follows_readName beside (by decide) _) fun {name name' _ _} same beside _ => ?_
  -- A name with a slash is neither an identifier nor a number, so it is refused.
  by_cases identifier : Text.isIdentifier name.toList
  · rw [same.eq (Text.not_mem_of_isIdentifier identifier)]
    refine .ite Iff.rfl (fun _ => ?_) fun no => absurd identifier no
    refine .bind (follows_get beside) fun {a b _ _} same beside _ => ?_
    rw [same.names]
    split
    · exact .pure beside fun _ => rfl
    · exact .failed
  · cases read : Decimal.readInteger name with
    | none =>
      rw [if_neg identifier]
      exact .failed
    | some n =>
      rw [same.eq (Decimal.not_mem_of_readInteger read)]
      refine .ite Iff.rfl (fun yes => absurd yes identifier) fun _ => ?_
      rw [read]
      cases n with
      | negSucc n => exact .failed
      | ofNat index =>
        refine .ite Iff.rfl (fun _ => .failed) fun _ => ?_
        refine .ite Iff.rfl (fun _ => .failed) fun _ => ?_
        refine .bind (follows_position beside) fun {here here' s t} _ beside _ => ?_
        refine .bind (follows_modify ?_) fun _ beside _ => .pure beside fun _ => rfl
        simp only [lookup_asked beside.asked index]
        split
        · exact beside
        · refine { beside with asked := ?_ }
          simp only [List.map_append, beside.asked, List.map_cons, List.map_nil]

theorem follows_readNamedReference (beside : s.Beside t) :
    Follows s t (fun a b => b = a.turned) readNamedReference readNamedReference := by
  refine .bind (follows_readName beside (by decide) _) fun {name name' _ _} same beside _ => ?_
  refine .bind (follows_checkName beside same) fun same beside _ => ?_
  subst same
  refine .bind (follows_get beside) fun {a b _ _} same beside _ => ?_
  rw [same.names]
  split
  · exact .failed
  · refine .bindSame (follows_closedWidth? beside _) fun a _ _ beside => ?_
    refine .ite Iff.rfl (fun _ => .failed) fun _ => ?_
    exact .bind (follows_checkLook beside _) fun _ beside _ => .pure beside fun _ => rfl

theorem follows_closeParenthesis (beside : s.Beside t) (opening opening' : Nat) :
    Follows s t (fun _ _ => True) (closeParenthesis opening) (closeParenthesis opening') := by
  refine .bindSame (follows_accept beside (by decide)) fun a _ _ beside => ?_
  exact .ite Iff.rfl (fun _ => .refused nofun) fun _ => .pure beside fun _ => trivial

/-! ## §4 Openings -/

/-- The same opening of a group on both sides. -/
def SameOpening (a b : Opening) : Prop :=
  match a with
  | .reference a => b = .reference a.turned
  | a => b = a

theorem follows_readOpening (beside : s.Beside t) :
    Follows s t SameOpening readOpening readOpening := by
  refine .bindSame (follows_accept beside (by decide)) fun _ _ _ beside => ?_
  refine .ite Iff.rfl (fun _ => .pure beside fun _ => rfl) fun _ => ?_
  refine .takeChar beside (fun _ _ => fail_ne_ok) (fun _ _ _ => fail_ne_ok)
    (fun _ _ => fail_ne_ok) fun c _ _ _ beside => ?_
  simp only
  split
  · refine .bindSame (follows_accept beside (by decide)) fun _ _ _ beside => ?_
    refine .ite Iff.rfl (fun _ => ?_) fun _ => ?_
    · refine .bind (follows_readName beside (by decide) _) fun same beside _ => ?_
      refine .bind (follows_checkName beside same) fun same beside _ => ?_
      subst same
      exact .pure beside fun _ => rfl
    refine .bindSame (follows_accept beside (by decide)) fun _ _ _ beside => ?_
    refine .ite Iff.rfl (fun _ => ?_) fun _ => ?_
    · exact .bind (follows_readNamedReference beside) fun same beside _ =>
        .pure beside fun _ => congrArg Opening.reference same
    · exact .takeChar beside (fun _ _ => fail_ne_ok) (fun _ _ _ => fail_ne_ok)
        (fun _ _ => fail_ne_ok) fun _ _ _ _ _ => .failed
  iterate 4 exact .pure beside fun _ => rfl
  · refine .takeChar beside (fun _ _ => fail_ne_ok) (fun _ _ _ => fail_ne_ok)
      (fun _ _ => fail_ne_ok) fun c _ _ _ beside => ?_
    split
    · exact .failed
    iterate 2 exact .pure beside fun _ => rfl
    · exact .failed
  iterate 2 exact .pure beside fun _ => rfl
  · refine .ite Iff.rfl (fun _ => ?_) fun _ => .failed
    refine .bindSame (follows_readFlags beside c) fun flags _ _ beside => ?_
    cases flags <;> exact .pure beside fun _ => rfl

/-! ## §5 Comments -/

theorem follows_skipLine (beside : s.Beside t) {steps steps' : Nat}
    (within : s.cursor.Within steps) (le : steps ≤ steps') :
    Follows s t (fun _ _ => True) (skipLine steps) (skipLine steps') := by
  induction steps generalizing s t steps' with
  | zero =>
    have ended : s.cursor.next = none := within.resolve_right (Nat.not_lt_zero _)
    have empty : s.cursor.after = [] := beside.cursor.ends ended
    rintro _ _ ⟨⟩ -
    -- With a step left the other side takes the end of the text, and stays there.
    cases steps' with
    | zero => exact ⟨⟨⟩, t, rfl, trivial, beside⟩
    | succ steps' =>
      have next : t.cursor.next = none := by rw [beside.cursor.next, ended]; rfl
      have after : t.cursor.after = [] := by rw [beside.cursor.after, empty]; rfl
      refine ⟨⟨⟩, { t with cursor := ⟨none, [], t.cursor.index⟩ },
        bind_run.mpr ⟨none, _, ?_, rfl⟩, trivial,
        { beside with cursor := { beside.cursor with next := ?_, after := ?_ } }⟩
      · exact take_run.mpr ⟨_, by rw [Cursor.advance, after]; rfl, next.symm, rfl⟩
      · rw [ended]; rfl
      · rw [empty]; rfl
  | succ steps ih =>
    obtain ⟨steps', rfl⟩ := Nat.exists_eq_add_one_of_ne_zero (Nat.ne_zero_of_lt le)
    replace le := Nat.le_of_succ_le_succ le
    refine .bind (follows_take beside) fun {a b _ _} same beside' ran => ?_
    obtain ⟨_, ahead, rfl, rfl⟩ := take_run.mp ran
    rw [same]
    cases next : s.cursor.next with
    | none => exact .pure beside' fun _ => trivial
    | some token =>
      refine .ite (escapedSlash_beq_char (by decide)) (fun _ => ?_) fun _ => ?_
      · exact .pure beside' fun _ => trivial
      · exact ih beside' (within.advance (by rw [next]; simp) ahead) le

theorem follows_skipComment (beside : s.Beside t) (opening opening' : Nat) {steps steps' : Nat}
    (le : steps ≤ steps') :
    Follows s t (fun _ _ => True) (skipComment opening steps) (skipComment opening' steps') := by
  induction steps generalizing s t steps' with
  | zero => exact .refused nofun
  | succ steps ih =>
    obtain ⟨steps', rfl⟩ := Nat.exists_eq_add_one_of_ne_zero (Nat.ne_zero_of_lt le)
    refine .bind (follows_peek beside) fun {a b _ _} same beside _ => ?_
    refine .ite (by rw [same, Option.isNone_map]) (fun _ => .refused nofun) fun _ => ?_
    refine .bind (follows_take beside) fun same beside _ => ?_
    refine .ite (same.eq_char_iff (by decide)) (fun _ => .pure beside fun _ => trivial) fun _ => ?_
    exact ih beside (Nat.le_of_succ_le_succ le)


end TreeSift.Regex.Reader
