/-
  TreeSift.Proofs.Regex.ReadAtoms — escapes and sets read side by side.

  An escape gives the same in a pattern and in the pattern with its slashes escaped,
  and since it stands for no separator, exchanging the separators leaves it alone. In
  a set, a slash of the pattern meets a backslash. A range that begins or ends at
  a slash would be another range with a backslash there, or none at all, so sets
  are followed only if they turn out to have no such range.

    §1 Escapes  `follows_readEscape`
    §2 Sets     `ClearOfSlash`, `follows_readSet`
-/
import TreeSift.Proofs.Regex.SideBySide
import TreeSift.Proofs.Regex.Turned

namespace TreeSift.Regex.Reader

variable {s t : ReaderState}

/-! ## §1 Escapes -/

theorem follows_readHex (beside : s.Beside t) (c : Char) (digits : Nat) :
    Follows s t Eq (readHex c digits) (readHex c digits) := by
  refine .bindSame (follows_takeWhile beside (by decide) (absurd rfl)) fun a _ _ beside => ?_
  refine .ite Iff.rfl (fun _ => .failed) fun _ => ?_
  refine .ite Iff.rfl (fun _ => .failed) fun _ => ?_
  exact .pure beside fun _ => rfl

/-- A name that is not listed is refused in either way. -/
theorem failName_ne_ok {name : String} {r : Nat × ReaderState} : failName name s ≠ .ok r := by
  rw [failName]
  split
  · exact fun h => nomatch h
  · exact fail_ne_ok

theorem follows_readCharacterName (beside : s.Beside t) :
    Follows s t Eq readCharacterName readCharacterName := by
  refine .bindSame (follows_accept beside (by decide)) fun a _ _ beside => ?_
  refine .ite Iff.rfl (fun _ => .failed) fun _ => ?_
  refine .bind (follows_readName beside (by decide) _) fun {a b _ _} same beside _ => ?_
  cases named : Text.named? a with
  | none => exact .refused fun _ => failName_ne_ok
  | some n =>
    -- No character has a name with a slash, so the names are the same.
    rw [same.eq (Text.not_mem_of_named? named), named]
    exact .pure beside fun _ => rfl

theorem follows_readCode (beside : s.Beside t) (c : Char) :
    Follows s t Eq (readCode c) (readCode c) := by
  unfold readCode
  split
  iterate 3
    exact .bindSame (follows_readHex beside _ _) fun _ _ _ beside => .pure beside fun _ => rfl
  · exact .bindSame (follows_readCharacterName beside) fun _ _ _ beside => .pure beside fun _ => rfl
  · exact .pure beside fun _ => rfl

theorem follows_plainEscape (beside : s.Beside t) (c : Char) :
    Follows s t Eq (plainEscape c) (plainEscape c) :=
  .ite Iff.rfl (fun _ => .failed) fun _ => .pure beside fun _ => rfl

theorem follows_setEscape (beside : s.Beside t) (c : Char) :
    Follows s t Eq (readSetEscape c) (readSetEscape c) := by
  unfold readSetEscape
  refine .ite Iff.rfl (fun _ => .pure beside fun _ => rfl) fun _ => ?_
  split
  · exact .pure beside fun _ => rfl
  split
  · exact .pure beside fun _ => rfl
  refine .bindSame (follows_readCode beside c) fun a _ _ beside => ?_
  split
  · exact .pure beside fun _ => rfl
  refine .ite Iff.rfl (fun _ => ?_) fun _ => ?_
  · refine .bindSame (follows_takeWhile beside (by decide) (absurd rfl)) fun a _ _ beside => ?_
    refine .ite Iff.rfl (fun _ => .failed) fun _ => .pure beside fun _ => rfl
  · exact .bindSame (follows_plainEscape beside c) fun _ _ _ beside => .pure beside fun _ => rfl

theorem follows_closedWidth? (beside : s.Beside t) (index : Nat) :
    Follows s t Eq (closedWidth? index) (closedWidth? index) :=
  .bind (follows_get beside) fun same beside _ => .pure beside fun _ => by rw [same.widths]

theorem follows_checkLook (beside : s.Beside t) (index : Nat) :
    Follows s t Eq (checkLook index) (checkLook index) := by
  refine .bind (follows_get beside) fun {a b _ _} same beside _ => ?_
  rw [same.lookLimit]
  split
  · refine .bindSame (follows_closedWidth? beside index) fun a _ _ beside => ?_
    refine .ite Iff.rfl (fun _ => .failed) fun _ => ?_
    exact .ite Iff.rfl (fun _ => .failed) fun _ => .pure beside fun _ => rfl
  · exact .pure beside fun _ => rfl

/-- The same atom on both sides: a code point, or an atom without separators. -/
def SameAtom (a b : Atom) : Prop := b = a ∧ (a.turned = a ∨ ∃ n, a = .code n)

theorem follows_readReference (beside : s.Beside t) (digits : List Char) :
    Follows s t SameAtom (readReference digits) (readReference digits) := by
  refine .bind (follows_get beside) fun {a b _ _} same beside _ => ?_
  rw [same.widths]
  refine .ite Iff.rfl (fun _ => .failed) fun _ => ?_
  refine .bindSame (follows_closedWidth? beside _) fun a _ _ beside => ?_
  refine .ite Iff.rfl (fun _ => .failed) fun _ => ?_
  refine .bind (follows_checkLook beside _) fun _ beside _ => ?_
  exact .pure beside fun _ => ⟨rfl, .inl rfl⟩

theorem follows_readNumbered (beside : s.Beside t) (c : Char) :
    Follows s t SameAtom (readNumbered c) (readNumbered c) := by
  refine .ite Iff.rfl (fun _ => ?_) fun _ => ?_
  · exact .bindSame (follows_takeWhile beside (by decide) (absurd rfl)) fun _ _ _ beside =>
      .pure beside fun _ => ⟨rfl, .inr ⟨_, rfl⟩⟩
  refine .bindSame (follows_takeWhile beside (by decide) (absurd rfl)) fun a _ _ beside => ?_
  split
  · exact follows_readReference beside _
  refine .ite Iff.rfl (fun _ => ?_) fun _ => follows_readReference beside _
  refine .bindSame (follows_takeWhile beside (by decide) (absurd rfl)) fun a _ _ beside => ?_
  split
  · exact follows_readReference beside _
  · refine .ite Iff.rfl (fun _ => .failed) fun _ => ?_
    exact .pure beside fun _ => ⟨rfl, .inr ⟨_, rfl⟩⟩

theorem turned_of_categoryItem? {c : Char} {item : SetItem} (found : categoryItem? c = some item) :
    item.turned = item := by
  unfold categoryItem? at found
  split at found <;> cases found <;> rfl

theorem follows_escape (beside : s.Beside t) (c : Char) :
    Follows s t SameAtom (readEscape c) (readEscape c) := by
  unfold readEscape
  split
  · exact .pure beside fun _ => ⟨rfl, .inl rfl⟩
  split
  next item found =>
    refine .pure beside fun _ => ⟨rfl, .inl ?_⟩
    rw [Atom.turned, List.map_singleton, turned_of_categoryItem? found]
  split
  · exact .pure beside fun _ => ⟨rfl, .inr ⟨_, rfl⟩⟩
  refine .bindSame (follows_readCode beside c) fun a _ _ beside => ?_
  split
  · exact .pure beside fun _ => ⟨rfl, .inr ⟨_, rfl⟩⟩
  refine .ite Iff.rfl (fun _ => follows_readNumbered beside c) fun _ => ?_
  exact .bindSame (follows_plainEscape beside c) fun _ _ _ beside =>
    .pure beside fun _ => ⟨rfl, .inr ⟨_, rfl⟩⟩

/-- Whether a token that has just been taken stands for no backslash, and if it is an
escape, for no slash either. -/
def Harmless (s : ReaderState) : Token → Prop
  | .char c => c ≠ '\\'
  | .escape c => ∃ rest i, ¬StandsForSeparator c rest ∧ Cursor.load rest i = .ok s.cursor

theorem harmless_of_take {token : Token} {s' : ReaderState} (beside : s.Beside t)
    (ran : take s = .ok (some token, s')) : Harmless s' token := by
  obtain ⟨_, ahead, next, rfl⟩ := take_run.mp ran
  cases token with
  | char c => exact fun backslash => beside.cursor.chars (by rw [← next, backslash])
  | escape c => exact ⟨_, _, beside.cursor.escapes c next.symm, ahead⟩

theorem follows_readEscape (beside : s.Beside t) {c : Char} (harmless : Harmless s (.escape c)) :
    Follows s t (fun a b => b = a.turned) (readEscape c) (readEscape c) := by
  intro a s' run _
  obtain ⟨_, t', ran, ⟨rfl, plain | ⟨n, rfl⟩⟩, beside'⟩ :=
    follows_escape beside c a s' run trivial
  · exact ⟨_, t', ran, plain.symm, beside'⟩
  · obtain ⟨rest, i, no, here⟩ := harmless
    have other (separator : n = 0x2F ∨ n = 0x5C) : False :=
      no (.inr (.inr ⟨n, separator, s, s', ⟨i, here⟩, .inr run⟩))
    refine ⟨.code n, t', ran, ?_, beside'⟩
    exact congrArg Atom.code (turnCode_of_ne (fun h => other (.inl h)) fun h => other (.inr h)).symm

/-! ## §2 Sets -/

/-- A part of a set and the same part with the separators exchanged, where the
first is no backslash. -/
def TurnedItem (a b : SetItem) : Prop := b = a.turned ∧ a ≠ .code 0x5C

theorem follows_readSetEscape (beside : s.Beside t) {c : Char} (harmless : Harmless s (.escape c)) :
    Follows s t TurnedItem (readSetEscape c) (readSetEscape c) := by
  intro item s' run _
  obtain ⟨_, t', ran, rfl, beside'⟩ := follows_setEscape beside c item s' run trivial
  refine ⟨item, t', ran, ?_, beside'⟩
  obtain ⟨rest, i, no, here⟩ := harmless
  have other {n : Nat} (code : item = .code n) (separator : n = 0x2F ∨ n = 0x5C) : False :=
    no (.inr (.inr ⟨n, separator, s, s', ⟨i, here⟩, .inl (by rw [run, code])⟩))
  refine ⟨?_, fun backslash => other backslash (.inr rfl)⟩
  cases item with
  | code n =>
    exact congrArg SetItem.code
      (turnCode_of_ne (fun h => other rfl (.inl h)) fun h => other rfl (.inr h)).symm
  | range | category => rfl

theorem follows_readSetItem (beside : s.Beside t) {token : Token} (harmless : Harmless s token) :
    Follows s t TurnedItem (readSetItem token) (readSetItem token.escapedSlash) := by
  cases token with
  | char c =>
    by_cases slash : c = '/'
    · subst slash
      exact .pure beside fun _ => ⟨rfl, nofun⟩
    · rw [Token.escapedSlash_char slash]
      refine .pure beside fun _ => ⟨?_, fun backslash => ?_⟩
      · exact congrArg SetItem.code (turnCode_toNat slash harmless).symm
      · exact harmless (Char.toNat_inj.mp (SetItem.code.inj backslash))
  | escape c => exact follows_readSetEscape beside harmless

/-- Whether a part of a set is no range that begins or ends at a slash. -/
def ClearOfSlash : SetItem → Prop
  | .range first last => first ≠ 0x2F ∧ last ≠ 0x2F
  | _ => True

instance : DecidablePred ClearOfSlash
  | .range first last => inferInstanceAs (Decidable (first ≠ 0x2F ∧ last ≠ 0x2F))
  | .code _ | .category _ _ => inferInstanceAs (Decidable True)

theorem follows_readRange (beside : s.Beside t) (first last : Token) {lo hi lo' hi' : SetItem}
    (low : TurnedItem lo lo') (high : TurnedItem hi hi') :
    FollowsIf s t ClearOfSlash (fun a b => b = a.turned) (readRange first last lo hi)
      (readRange first.escapedSlash last.escapedSlash lo' hi') := by
  obtain ⟨rfl, low⟩ := low
  obtain ⟨rfl, high⟩ := high
  unfold readRange
  split
  next m n =>
    intro item s' run clear
    by_cases backwards : n < m
    · rw [if_pos backwards] at run
      cases run
    · rw [if_neg backwards] at run
      cases run
      have keepsLow : turnCode m = m := turnCode_of_ne clear.1 fun eq => low (by rw [eq])
      have keepsHigh : turnCode n = n := turnCode_of_ne clear.2 fun eq => high (by rw [eq])
      refine ⟨.range m n, t, ?_, rfl, beside⟩
      simp only [SetItem.turned, keepsLow, keepsHigh]
      rw [if_neg backwards]
      rfl
  · exact .refused nofun

theorem yields_readItems (opening : Nat) (items : List SetItem) (steps : Nat) :
    Yields (items ⊆ ·) (readItems opening items steps) := by
  induction steps generalizing items with
  | zero => exact .refused nofun
  | succ steps ih =>
    have more (item : SetItem) : Yields (items ⊆ ·) (readItems opening (item :: items) steps) :=
      fun s a s' run => List.Subset.trans (List.subset_cons_self item items) (ih _ s a s' run)
    refine .bind fun token => ?_
    cases token with
    | none => exact .refused nofun
    | some token =>
      refine .ite (fun _ => .pure fun _ => List.mem_reverse.mpr) fun _ => ?_
      refine .bind fun item => .bind fun ranged => .ite (fun _ => .bind fun last => ?_)
        fun _ => more item
      cases last with
      | none => exact .refused nofun
      | some last =>
        refine .ite (fun _ => .pure fun part inside => ?_)
          fun _ => .bind fun hi => .bind fun range => more range
        exact List.mem_reverse.mpr (List.mem_cons_of_mem _ (List.mem_cons_of_mem _ inside))

theorem follows_readItems (beside : s.Beside t) (opening opening' : Nat) (items : List SetItem)
    {steps steps' : Nat} (le : steps ≤ steps') :
    FollowsIf s t (fun items => ∀ item ∈ items, ClearOfSlash item)
      (fun a b => b = a.map SetItem.turned) (readItems opening items steps)
      (readItems opening' (items.map SetItem.turned) steps') := by
  induction steps generalizing s t items steps' with
  | zero => exact .refused nofun
  | succ steps ih =>
    obtain ⟨steps', rfl⟩ := Nat.exists_eq_add_one_of_ne_zero (Nat.ne_zero_of_lt le)
    replace le := Nat.le_of_succ_le_succ le
    refine .bind (follows_take beside) fun {a b _ _} sameToken beside₁ ran => ?_
    rw [sameToken]
    cases a with
    | none => exact .refused nofun
    | some token =>
      refine .ite ?_ (fun _ => ?_) fun _ => ?_
      · rw [Bool.and_eq_true, Bool.and_eq_true, escapedSlash_beq_char (by decide),
          List.isEmpty_map]
      · exact .pure beside₁ fun _ => List.map_reverse.symm
      refine .bind (follows_readSetItem beside₁ (harmless_of_take beside ran))
        fun {lo lo' _ _} low beside₂ _ => ?_
      refine .bindSame (follows_accept beside₂ (by decide)) fun ranged _ _ beside₃ => ?_
      refine .ite Iff.rfl (fun _ => ?_) fun _ => ?_
      · refine .bind (follows_take beside₃) fun {c d _ _} sameToken beside₄ ran => ?_
        rw [sameToken]
        cases c with
        | none => exact .refused nofun
        | some last =>
          refine .ite (escapedSlash_beq_char (by decide)) (fun _ => ?_) fun _ => ?_
          · refine .pure beside₄ fun _ => ?_
            rw [low.1, List.map_reverse]
            rfl
          · refine .bind (follows_readSetItem beside₄ (harmless_of_take beside₃ ran))
              fun high beside₅ _ => ?_
            refine .bindIf (follows_readRange beside₅ token last low high) (fun item => ?_)
              fun {range _ _ _} same beside₆ ran => ?_
            · -- The range is a part of the finished set, whose parts are all clear.
              exact fun s a s' run clear =>
                clear item (yields_readItems _ _ _ s a s' run List.mem_cons_self)
            · subst same
              exact ih beside₆ (range :: items) le
      · rw [low.1]
        exact ih beside₃ (lo :: items) le

theorem setAtom_turned (negated : Bool) (items : List SetItem) :
    setAtom negated (items.map SetItem.turned) = (setAtom negated items).turned := by
  cases items with
  | nil => rfl
  | cons item rest =>
    cases rest with
    | cons => cases item <;> rfl
    | nil =>
      cases item with
      | code n => cases negated <;> rfl
      | range | category => rfl

theorem clear_of_setAtom {negated : Bool} {items : List SetItem}
    (clear : ∀ item ∈ (setAtom negated items).items, ClearOfSlash item) :
    ∀ item ∈ items, ClearOfSlash item := by
  unfold setAtom at clear
  split at clear
  · rintro item inside
    rw [List.mem_singleton.mp inside]
    trivial
  · exact clear

theorem follows_readSet (beside : s.Beside t) :
    FollowsIf s t (fun a => ∀ item ∈ a.items, ClearOfSlash item) (fun a b => b = a.turned)
      readSet readSet := by
  refine .bind (follows_position beside) fun _ beside _ => ?_
  refine .bindSame (follows_accept beside (by decide)) fun negated _ _ beside => ?_
  refine .bind (follows_room beside) fun rooms beside _ => ?_
  refine .bindIf (follows_readItems beside _ _ [] rooms.2) (fun items => .pure ?_)
    fun same beside _ => .pure beside fun _ => ?_
  · exact fun clear item inside =>
      clear_of_setAtom clear item (List.mem_eraseDups.mpr inside)
  · rw [same, eraseDups_map SetItem.turned_injective, setAtom_turned]

end TreeSift.Regex.Reader
