/-
  TreeSift.Proofs.Regex.SideBySide — reading a pattern and its escaped form.

  A pattern may be written again with every slash as an escaped backslash. Two
  readers go through the two texts token by token: where the one sees a slash, the
  other sees the escape, and all other tokens are the same, provided no escape of
  the pattern stands for a separator itself.

  Only the success of the reader of the pattern is followed: where it refuses the
  pattern, nothing is said about the other. Positions differ between the two, and
  they matter to refusals only.

    §1 Texts    `escapedSlashes`, `PlainlySeparated`
    §2 Places   `Cursor.Beside`, `ReaderState.Beside`
    §3 Readers  `FollowsIf`, `FollowsIf.bind`
    §4 Tokens   `follows_take`, `follows_accept`, `follows_takeWhile`
    §5 Names    `follows_readName`, `follows_checkName`
-/
import Mathlib.Data.List.Basic
import TreeSift.Proofs.Fallible
import TreeSift.Proofs.Text.Slash
import TreeSift.Regex.Reader

namespace TreeSift.Regex

open Fallible

/-! ## §1 Texts -/

/-- A pattern with each slash written as an escaped backslash. -/
def escapedSlashes (text : List Char) : List Char :=
  text.flatMap fun c => if c = '/' then ['\\', '\\'] else [c]

theorem escapedSlashes_append (a b : List Char) :
    escapedSlashes (a ++ b) = escapedSlashes a ++ escapedSlashes b := List.flatMap_append

theorem escapedSlashes_cons {c : Char} (other : c ≠ '/') (rest : List Char) :
    escapedSlashes (c :: rest) = c :: escapedSlashes rest := by
  rw [escapedSlashes, List.flatMap_cons, if_neg other, ← escapedSlashes]
  rfl

theorem escapedSlashes_reverse (a : List Char) :
    escapedSlashes a.reverse = (escapedSlashes a).reverse := by
  unfold escapedSlashes
  rw [List.reverse_flatMap]
  refine List.flatMap_congr fun c _ => ?_
  rw [Function.comp_apply]
  split <;> rfl

theorem escapedSlashes_of_not_mem {a : List Char} (none : '/' ∉ a) : escapedSlashes a = a := by
  induction a with
  | nil => rfl
  | cons c rest ih =>
    have other : c ≠ '/' := fun slash => none (by rw [slash]; exact List.mem_cons_self)
    rw [escapedSlashes_cons other, ih fun inside => none (List.mem_cons_of_mem _ inside)]

theorem isEmpty_escapedSlashes (a : List Char) : (escapedSlashes a).isEmpty = a.isEmpty := by
  cases a with
  | nil => rfl
  | cons c rest =>
    rw [escapedSlashes, List.flatMap_cons]
    split <;> rfl

theorem length_le_escapedSlashes (a : List Char) : a.length ≤ (escapedSlashes a).length := by
  induction a with
  | nil => exact Nat.le_refl _
  | cons c rest ih =>
    rw [escapedSlashes, List.flatMap_cons, List.length_append, ← escapedSlashes]
    split <;> simp only [List.length_cons, List.length_nil] <;> omega

/-- Whether the escape of a character, with what comes after it, stands for a
separator, in a set or outside: it is one, or is read as the code point of one. -/
def StandsForSeparator (c : Char) (rest : List Char) : Prop :=
  c = '/' ∨ c = '\\' ∨ ∃ n, (n = 0x2F ∨ n = 0x5C) ∧ ∃ s s' : ReaderState,
    (∃ i, Cursor.load rest i = .ok s.cursor) ∧
      (Reader.readSetEscape c s = .ok (.code n, s') ∨ Reader.readEscape c s = .ok (.code n, s'))

/-- Whether no escape in a text stands for a separator. -/
def PlainlySeparated (text : List Char) : Prop :=
  ∀ before c rest, text = before ++ '\\' :: c :: rest → ¬StandsForSeparator c rest

theorem PlainlySeparated.tail {c : Char} {rest : List Char} (plain : PlainlySeparated (c :: rest)) :
    PlainlySeparated rest :=
  fun before d more eq => plain (c :: before) d more (by rw [eq, List.cons_append])

/-! ## §2 Places -/

namespace Token

/-- A token with a slash written as an escaped backslash. -/
def escapedSlash (t : Token) : Token := if t = .char '/' then .escape '\\' else t

theorem escapedSlash_char {c : Char} (other : c ≠ '/') : (char c).escapedSlash = .char c :=
  if_neg fun slash => other (char.inj slash)

theorem escapedSlash_eq_char {t : Token} {c : Char} (other : c ≠ '/') :
    t.escapedSlash = .char c ↔ t = .char c := by
  unfold escapedSlash
  split
  next slash =>
    subst slash
    refine ⟨nofun, fun eq => ?_⟩
    exact absurd (char.inj eq).symm other
  next => rfl

theorem text_escapedSlash {t : Token} (plain : t ≠ .escape '/') :
    t.escapedSlash.text = escapedSlashes t.text := by
  cases t with
  | char c =>
    by_cases slash : c = '/'
    · subst slash
      rfl
    · rw [escapedSlash_char slash, text, escapedSlashes_cons slash]
      rfl
  | escape c =>
    have other : c ≠ '/' := fun slash => plain (by rw [slash])
    change ['\\', c] = _
    rw [text, escapedSlashes_cons (by decide), escapedSlashes_cons other]
    rfl

end Token

/-- The same place in a pattern and in the pattern with its slashes escaped. -/
structure Cursor.Beside (c d : Cursor) : Prop where
  next : d.next = c.next.map Token.escapedSlash
  after : d.after = escapedSlashes c.after
  plain : PlainlySeparated c.after
  ends : c.next = none → c.after = []
  chars : c.next ≠ some (.char '\\')
  escapes : ∀ x, c.next = some (.escape x) → ¬StandsForSeparator x c.after

namespace Cursor

theorem load_char {x : Char} (other : x ≠ '\\') (rest : List Char) (i : Nat) :
    load (x :: rest) i = .ok ⟨some (.char x), rest, i + 1⟩ := by
  unfold load
  split <;> simp_all

/-- Where a pattern can be read on, so can the pattern with its slashes escaped. -/
theorem beside_load {text : List Char} (plain : PlainlySeparated text) {i : Nat} {c : Cursor}
    (loaded : load text i = .ok c) (j : Nat) :
    ∃ d, load (escapedSlashes text) j = .ok d ∧ c.Beside d := by
  cases text with
  | nil =>
    cases loaded
    exact ⟨_, rfl, rfl, rfl, plain, fun _ => rfl, nofun, nofun⟩
  | cons x rest =>
    by_cases backslash : x = '\\'
    · subst backslash
      cases rest with
      | nil => cases loaded
      | cons y more =>
        have no : ¬StandsForSeparator y more := plain [] y more rfl
        cases loaded
        refine ⟨⟨some (.escape y), escapedSlashes more, j + 2⟩, ?_, ⟨?_, rfl, plain.tail.tail,
          nofun, nofun, ?_⟩⟩
        · rw [escapedSlashes_cons (by decide), escapedSlashes_cons fun slash => no (.inl slash)]
          rfl
        · rfl
        · rintro z ⟨⟩
          exact no
    · rw [load_char backslash] at loaded
      cases loaded
      have stays : some (Token.char x) ≠ some (.char '\\') :=
        fun eq => backslash (Token.char.inj (Option.some.inj eq))
      by_cases slash : x = '/'
      · subst slash
        exact ⟨_, rfl, rfl, rfl, plain.tail, nofun, stays, nofun⟩
      · refine ⟨_, by rw [escapedSlashes_cons slash, load_char backslash], ?_, rfl, plain.tail,
          nofun, stays, nofun⟩
        exact congrArg some (Token.escapedSlash_char slash).symm

theorem Beside.advance {c d c' : Cursor} (beside : c.Beside d) (ahead : c.advance = .ok c') :
    ∃ d', d.advance = .ok d' ∧ c'.Beside d' := by
  rw [Cursor.advance, beside.after]
  exact beside_load beside.plain ahead d.index

/-- Whether less than a number of characters come after the next token, if there is one. -/
def Within (c : Cursor) (most : Nat) : Prop := c.next = none ∨ c.after.length < most

theorem within_room (c : Cursor) : c.Within c.room := .inr (by unfold room; omega)

theorem Within.advance {c c' : Cursor} {most : Nat} (within : c.Within (most + 1))
    (inside : c.next ≠ none) (ahead : c.advance = .ok c') : c'.Within most := by
  have few := within.resolve_left inside
  unfold Cursor.advance load at ahead
  split at ahead
  · cases ahead
    exact .inl rfl
  · cases ahead
  · next eq =>
    cases ahead
    rw [eq, List.length_cons, List.length_cons] at few
    exact .inr (Nat.lt_of_succ_lt_succ (Nat.lt_of_succ_lt few))
  · next eq =>
    cases ahead
    rw [eq, List.length_cons] at few
    exact .inr (Nat.lt_of_succ_lt_succ few)

end Cursor

/-- Two readers at the same place, of a pattern and of the pattern with its slashes
escaped, that know the same. Only the positions differ. -/
structure ReaderState.Beside (s t : ReaderState) : Prop where
  cursor : s.cursor.Beside t.cursor
  flags : t.flags = s.flags
  names : t.names = s.names
  widths : t.widths = s.widths
  lookLimit : t.lookLimit = s.lookLimit
  asked : t.asked.map Prod.fst = s.asked.map Prod.fst

namespace Reader

/-! ## §3 Readers -/

variable {α β γ δ : Type} {s t : ReaderState}

theorem bind_run {f : Reader α} {k : α → Reader β} {r : β × ReaderState} :
    (f >>= k) s = .ok r ↔ ∃ a s', f s = .ok (a, s') ∧ k a s' = .ok r :=
  (bind_eq_ok (x := f s)).trans Prod.exists

theorem lift_run {x : Except Refusal α} {a : α} {s' : ReaderState} :
    (liftM x : Reader α) s = .ok (a, s') ↔ x = .ok a ∧ s' = s := by
  cases x with
  | error e => exact ⟨nofun, nofun⟩
  | ok b =>
    constructor
    · rintro ⟨⟩
      exact ⟨rfl, rfl⟩
    · rintro ⟨⟨⟩, rfl⟩
      rfl

theorem fail_ne_ok {cause : Fault} {back : Nat} {r : α × ReaderState} :
    (fail cause back : Reader α) s ≠ .ok r := nofun

theorem failAt_ne_ok {cause : Fault} {position : Nat} {r : α × ReaderState} :
    (failAt cause position : Reader α) s ≠ .ok r := nofun

theorem bind_ne_ok {f : Reader α} {k : α → Reader β} {r : β × ReaderState}
    (refused : ∀ r, f s ≠ .ok r) : (f >>= k) s ≠ .ok r := fun run =>
  let ⟨_, _, ran, _⟩ := bind_run.mp run
  refused _ ran

/-- Whether all values of a reader have a property. -/
def Yields (P : α → Prop) (f : Reader α) : Prop := ∀ s a s', f s = .ok (a, s') → P a

/-- A reader at one place follows another one at the place beside it: where the
other succeeds with a value that is `Good`, it succeeds with a related value, and
both are beside each other again. -/
def FollowsIf (s t : ReaderState) (Good : α → Prop) (Rel : α → β → Prop) (f : Reader α)
    (g : Reader β) : Prop :=
  ∀ a s', f s = .ok (a, s') → Good a → ∃ b t', g t = .ok (b, t') ∧ Rel a b ∧ s'.Beside t'

/-- A reader follows another one whatever the value of the other is. -/
abbrev Follows (s t : ReaderState) (Rel : α → β → Prop) (f : Reader α) (g : Reader β) : Prop :=
  FollowsIf s t (fun _ => True) Rel f g

section

variable {P : α → Prop}

theorem Yields.pure {a : α} (holds : P a) : Yields P (Pure.pure a : Reader α) := by
  rintro s b s' ⟨⟩
  exact holds

theorem Yields.bind {f : Reader β} {k : β → Reader α} (yields : ∀ b, Yields P (k b)) :
    Yields P (f >>= k) := by
  intro s a s' run
  obtain ⟨b, mid, -, last⟩ := bind_run.mp run
  exact yields b mid a s' last

theorem Yields.ite {c : Prop} [Decidable c] {f g : Reader α} (yes : c → Yields P f)
    (no : ¬c → Yields P g) : Yields P (if c then f else g) := by
  by_cases holds : c
  · rw [if_pos holds]
    exact yes holds
  · rw [if_neg holds]
    exact no holds

theorem Yields.mono {Q : α → Prop} {f : Reader α} (yields : Yields P f) (le : ∀ a, P a → Q a) :
    Yields Q f :=
  fun s a s' run => le a (yields s a s' run)

theorem Yields.refused {f : Reader α} (refused : ∀ s r, f s ≠ .ok r) : Yields P f :=
  fun s _ _ run => absurd run (refused s _)

end

section

variable {Good : γ → Prop} {Rel : α → β → Prop} {Last : γ → δ → Prop}

theorem FollowsIf.pure (beside : s.Beside t) {a : γ} {b : δ} (rel : Good a → Last a b) :
    FollowsIf s t Good Last (Pure.pure a) (Pure.pure b) := by
  rintro _ _ ⟨⟩ good
  exact ⟨b, t, rfl, rel good, beside⟩

/-- Two readers follow each other in sequence. What the second reader makes of a
value has to show that the value was good. -/
theorem FollowsIf.bindIf {Fine : α → Prop} {f : Reader α} {g : Reader β} {k : α → Reader γ}
    {l : β → Reader δ} (first : FollowsIf s t Fine Rel f g)
    (fine : ∀ a, Yields (fun c => Good c → Fine a) (k a))
    (next : ∀ {a b s' t'}, Rel a b → s'.Beside t' → f s = .ok (a, s') →
      FollowsIf s' t' Good Last (k a) (l b)) :
    FollowsIf s t Good Last (f >>= k) (g >>= l) := by
  intro c s'' run good
  obtain ⟨a, s', ran, last⟩ := bind_run.mp run
  obtain ⟨b, t', followed, rel, beside⟩ := first a s' ran (fine a s' c s'' last good)
  obtain ⟨d, t'', ends, rel', beside'⟩ := next rel beside ran c s'' last good
  exact ⟨d, t'', bind_run.mpr ⟨b, t', followed, ends⟩, rel', beside'⟩

theorem FollowsIf.bind {f : Reader α} {g : Reader β} {k : α → Reader γ} {l : β → Reader δ}
    (first : Follows s t Rel f g)
    (next : ∀ {a b s' t'}, Rel a b → s'.Beside t' → f s = .ok (a, s') →
      FollowsIf s' t' Good Last (k a) (l b)) :
    FollowsIf s t Good Last (f >>= k) (g >>= l) :=
  first.bindIf (fun _ _ _ _ _ _ => trivial) next

/-- Two readers follow each other after readers that give the same. -/
theorem FollowsIf.bindSame {f g : Reader α} {k : α → Reader γ} {l : α → Reader δ}
    (first : Follows s t Eq f g)
    (next : ∀ a {s' t'}, s'.Beside t' → FollowsIf s' t' Good Last (k a) (l a)) :
    FollowsIf s t Good Last (f >>= k) (g >>= l) := by
  refine first.bind fun {a b _ _} same beside _ => ?_
  subst same
  exact next a beside

theorem FollowsIf.ite {c d : Prop} [Decidable c] [Decidable d] {f f' : Reader γ}
    {g g' : Reader δ} (same : d ↔ c) (yes : c → FollowsIf s t Good Last f g)
    (no : ¬c → FollowsIf s t Good Last f' g') :
    FollowsIf s t Good Last (if c then f else f') (if d then g else g') := by
  by_cases holds : c
  · rw [if_pos holds, if_pos (same.mpr holds)]
    exact yes holds
  · rw [if_neg holds, if_neg (mt same.mp holds)]
    exact no holds

theorem FollowsIf.refused {f : Reader γ} {g : Reader δ} (refused : ∀ r, f s ≠ .ok r) :
    FollowsIf s t Good Last f g :=
  fun _ _ run => absurd run (refused _)

theorem FollowsIf.failed {cause : Fault} {back : Nat} {g : Reader δ} :
    FollowsIf s t Good Last (fail cause back) g := .refused fun _ => fail_ne_ok

end

theorem follows_get (beside : s.Beside t) : Follows s t ReaderState.Beside get get := by
  rintro _ _ ⟨⟩ -
  exact ⟨t, t, rfl, beside, beside⟩

theorem follows_set {s' t' : ReaderState} (beside : s'.Beside t') :
    Follows s t (fun _ _ => True) (set s') (set t') := by
  rintro _ _ ⟨⟩ -
  exact ⟨⟨⟩, t', rfl, trivial, beside⟩

theorem follows_modify {f g : ReaderState → ReaderState} (beside : (f s).Beside (g t)) :
    Follows s t (fun _ _ => True) (modify f) (modify g) := by
  rintro _ _ ⟨⟩ -
  exact ⟨⟨⟩, g t, rfl, trivial, beside⟩

/-! ## §4 Tokens -/

theorem follows_position (beside : s.Beside t) :
    Follows s t (fun _ _ => True) position position := by
  rintro _ _ ⟨⟩ -
  exact ⟨_, t, rfl, trivial, beside⟩

theorem follows_room (beside : s.Beside t) :
    Follows s t (fun m n => m = s.cursor.room ∧ m ≤ n) room room := by
  rintro _ _ ⟨⟩ -
  refine ⟨_, t, rfl, ⟨rfl, ?_⟩, beside⟩
  rw [Cursor.room, Cursor.room, beside.cursor.after]
  exact Nat.add_le_add_right (length_le_escapedSlashes _) 2

/-- The next token on both sides. -/
def SameToken (a b : Option Token) : Prop := b = a.map Token.escapedSlash

theorem SameToken.eq_char_iff {a b : Option Token} (same : SameToken a b) {c : Char}
    (other : c ≠ '/') : b == some (.char c) ↔ a == some (.char c) := by
  rw [beq_iff_eq, beq_iff_eq, same]
  cases a with
  | none => exact ⟨nofun, nofun⟩
  | some t => rw [Option.map_some, Option.some.injEq, Option.some.injEq,
      Token.escapedSlash_eq_char other]

theorem escapedSlash_beq_char {token : Token} {c : Char} (other : c ≠ '/') :
    token.escapedSlash == .char c ↔ token == .char c := by
  rw [beq_iff_eq, beq_iff_eq, Token.escapedSlash_eq_char other]

theorem follows_peek (beside : s.Beside t) : Follows s t SameToken peek peek := by
  rintro _ _ ⟨⟩ -
  exact ⟨_, t, rfl, beside.cursor.next, beside⟩

theorem take_run {a : Option Token} {s' : ReaderState} :
    take s = .ok (a, s') ↔
      ∃ c, s.cursor.advance = .ok c ∧ a = s.cursor.next ∧ s' = { s with cursor := c } := by
  unfold take
  constructor
  · intro run
    obtain ⟨_, _, ⟨⟩, rest⟩ := bind_run.mp run
    obtain ⟨c, _, lifted, last⟩ := bind_run.mp rest
    obtain ⟨ahead, rfl⟩ := lift_run.mp lifted
    cases last
    exact ⟨c, ahead, rfl, rfl⟩
  · rintro ⟨c, ahead, rfl, rfl⟩
    exact bind_run.mpr ⟨s, s, rfl, bind_run.mpr ⟨c, s, lift_run.mpr ⟨ahead, rfl⟩, rfl⟩⟩

theorem follows_take (beside : s.Beside t) : Follows s t SameToken take take := by
  intro a s' run _
  obtain ⟨c, ahead, rfl, rfl⟩ := take_run.mp run
  obtain ⟨d, follows, beside'⟩ := beside.cursor.advance ahead
  exact ⟨_, _, take_run.mpr ⟨d, follows, rfl, rfl⟩, beside.cursor.next,
    { beside with cursor := beside' }⟩

/-- Readers that go on only after a character other than a slash follow each other
if they do so after each such character. -/
theorem FollowsIf.takeChar {Good : γ → Prop} {Last : γ → δ → Prop} (beside : s.Beside t)
    {k : Option Token → Reader γ} {l : Option Token → Reader δ}
    (ended : ∀ s r, k none s ≠ .ok r) (escape : ∀ c s r, k (some (.escape c)) s ≠ .ok r)
    (slash : ∀ s r, k (some (.char '/')) s ≠ .ok r)
    (char : ∀ c {s' t'}, c ≠ '/' → s'.Beside t' →
      FollowsIf s' t' Good Last (k (some (.char c))) (l (some (.char c)))) :
    FollowsIf s t Good Last (take >>= k) (take >>= l) := by
  refine .bind (follows_take beside) fun {a b _ _} same beside' _ => ?_
  rw [same]
  cases a with
  | none => exact .refused (ended _)
  | some token =>
    cases token with
    | escape c => exact .refused (escape c _)
    | char c =>
      by_cases other : c = '/'
      · subst other
        exact .refused (slash _)
      · rw [Option.map_some, Token.escapedSlash_char other]
        exact char c other beside'

theorem follows_accept (beside : s.Beside t) {c : Char} (other : c ≠ '/') :
    Follows s t Eq (accept c) (accept c) := by
  refine .bind (follows_peek beside) fun same beside _ => ?_
  refine .ite (same.eq_char_iff other) (fun _ => ?_) fun _ => .pure beside fun _ => rfl
  exact .bind (follows_take beside) fun _ beside _ => .pure beside fun _ => rfl

/-- Taking characters stops at a slash as it does at an escape. It gives the same when
the steps are the same, or suffice to read on to the end. -/
theorem follows_takeWhile (beside : s.Beside t) {p : Char → Bool} (other : p '/' = false)
    {most most' : Nat} (within : most ≠ most' → s.cursor.Within most ∧ most ≤ most') :
    Follows s t Eq (takeWhile p most) (takeWhile p most') := by
  induction most generalizing s t most' with
  | zero =>
    cases most' with
    | zero => exact .pure beside fun _ => rfl
    | succ most' =>
      have ended : s.cursor.next = none := (within nofun).1.resolve_right (Nat.not_lt_zero _)
      rintro _ _ ⟨⟩ -
      refine ⟨[], t, bind_run.mpr ⟨none, t, ?_, rfl⟩, rfl, beside⟩
      exact congrArg (fun next => Except.ok (next, t)) (by rw [beside.cursor.next, ended]; rfl)
  | succ most ih =>
    cases most' with
    | zero => exact absurd (within nofun).2 (Nat.not_succ_le_zero _)
    | succ most' =>
      refine .bind (follows_peek beside) fun {a b _ _} same beside peeked => ?_
      cases peeked
      rw [same]
      cases next : s.cursor.next with
      | none => exact .pure beside fun _ => rfl
      | some token =>
        cases token with
        | escape c => exact .pure beside fun _ => rfl
        | char c =>
          by_cases slash : c = '/'
          · -- Taking stops here at the slash, and there at the escape.
            subst slash
            simp only [other]
            exact .pure beside fun _ => rfl
          · rw [Option.map_some, Token.escapedSlash_char slash]
            refine .ite Iff.rfl (fun _ => ?_) fun _ => .pure beside fun _ => rfl
            refine .bind (follows_take beside) fun _ beside ran => ?_
            obtain ⟨_, ahead, rfl, rfl⟩ := take_run.mp ran
            refine .bind (ih beside fun apart => ?_) fun same beside _ =>
              .pure beside fun _ => by rw [same]
            obtain ⟨enough, le⟩ := within fun eq => apart (Nat.succ.inj eq)
            exact ⟨enough.advance (by rw [next]; nofun) ahead, Nat.le_of_succ_le_succ le⟩

/-! ## §5 Names -/

/-- The same name on both sides. -/
def SameName (a b : String) : Prop := b.toList = escapedSlashes a.toList

theorem SameName.eq {a b : String} (same : SameName a b) (none : '/' ∉ a.toList) : b = a := by
  rw [← String.toList_inj, same, escapedSlashes_of_not_mem none]

theorem follows_takeName (beside : s.Beside t) {closer : Char} (other : closer ≠ '/')
    (what : String) {before before' : List Char} (same : before' = escapedSlashes before)
    {steps steps' : Nat} (le : steps ≤ steps') :
    Follows s t SameName (takeName closer what before steps)
      (takeName closer what before' steps') := by
  induction steps generalizing s t before before' steps' with
  | zero => exact .refused nofun
  | succ steps ih =>
    obtain ⟨steps', rfl⟩ := Nat.exists_eq_add_one_of_ne_zero (Nat.ne_zero_of_lt le)
    have empty : before'.isEmpty ↔ before.isEmpty := by rw [same, isEmpty_escapedSlashes]
    refine .bind (follows_take beside) fun {a b _ _} sameToken beside' ran => ?_
    obtain ⟨_, ahead, rfl, rfl⟩ := take_run.mp ran
    rw [sameToken]
    cases next : s.cursor.next with
    | none => exact .ite empty (fun _ => .refused nofun) fun _ => .refused nofun
    | some token =>
      refine .ite (escapedSlash_beq_char other) (fun _ => ?_) fun _ => ?_
      · refine .ite empty (fun _ => .refused nofun) fun _ => .pure beside' fun _ => ?_
        rw [SameName, String.toList_ofList, String.toList_ofList, same, escapedSlashes_reverse]
      · refine ih beside' ?_ (Nat.le_of_succ_le_succ le)
        have plain : token ≠ .escape '/' := by
          rintro rfl
          exact beside.cursor.escapes '/' next (.inl rfl)
        rw [same, escapedSlashes_append, Token.text_escapedSlash plain, escapedSlashes_reverse]

theorem follows_readName (beside : s.Beside t) {closer : Char} (other : closer ≠ '/')
    (what : String) :
    Follows s t SameName (readName closer what) (readName closer what) :=
  .bind (follows_room beside) fun rooms beside _ =>
    follows_takeName beside other what rfl rooms.2

theorem follows_checkName (beside : s.Beside t) {a b : String} (same : SameName a b) :
    Follows s t (fun _ _ => b = a) (checkName a) (checkName b) := by
  unfold checkName
  by_cases identifier : Text.isIdentifier a.toList
  · rw [same.eq (Text.not_mem_of_isIdentifier identifier), identifier]
    exact .pure beside fun _ => rfl
  · rw [Bool.not_eq_true] at identifier
    rw [identifier]
    exact .refused nofun

end Reader

end TreeSift.Regex
