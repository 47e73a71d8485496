/-
  TreeSift.Proofs.Search.Separators — one pattern for slashes and for backslashes.

  Patterns are written with slashes. Where names are separated by a backslash, every
  run of slashes becomes one escaped backslash, without a look at what surrounds
  it. For a pattern whose slashes stand for themselves this is what it should be:
  what it finds between backslashes is what the pattern with single slashes finds
  between slashes. Escapes of a separator, and ranges that reach to one separator
  only, are where the rewriting shows.

    §1 Runs              `singleSlashes`, `adaptSeparators_backslash`
    §2 Escapes           `isPlainEscape`, `plainlySeparated_of_escapes`
    §3 Reading           `Regex.SeparatesPlainly`, `Regex.ofPattern_escaped`
    §4 Both separators   `search_regex_both_separators`
-/
import TreeSift.Proofs.Regex.ReadSequences
import TreeSift.Proofs.Regex.TurnedText
import TreeSift.Search.Relative

namespace TreeSift

open Fallible

/-! ## §1 Runs -/

/-- A text with every run of slashes as one slash. `inRun` tells whether the
character before the text is a slash. -/
def singleSlashes (inRun : Bool) : List Char → List Char
  | [] => []
  | c :: rest =>
    if c = '/' then (if inRun then [] else ['/']) ++ singleSlashes true rest
    else c :: singleSlashes false rest

theorem backslashed_eq (inRun : Bool) (text : List Char) :
    backslashed inRun text = Regex.escapedSlashes (singleSlashes inRun text) := by
  induction text generalizing inRun with
  | nil => rfl
  | cons c rest ih =>
    unfold backslashed singleSlashes
    split
    · rw [Regex.escapedSlashes_append, ih]
      cases inRun <;> rfl
    next other => rw [Regex.escapedSlashes_cons other, ih]

theorem singleSlashes_eq_self {text : List Char} (single : ¬['/', '/'] <:+: text) :
    singleSlashes false text = text := by
  induction text with
  | nil => rfl
  | cons c rest ih =>
    have once := ih fun twice => single (twice.trans (List.suffix_cons c rest).isInfix)
    unfold singleSlashes
    split
    next slash =>
      subst slash
      cases rest with
      | nil => rfl
      | cons d more =>
        have other : d ≠ '/' := fun eq => single ⟨[], more, by rw [eq]; rfl⟩
        rw [singleSlashes, if_neg other] at once ⊢
        rw [once]
        rfl
    next => rw [once]

/-- A pattern with every run of slashes as one slash. -/
def oneSlash (pattern : String) : String := String.ofList (singleSlashes false pattern.toList)

theorem oneSlash_eq_self {pattern : String} (single : ¬['/', '/'] <:+: pattern.toList) :
    oneSlash pattern = pattern := by
  rw [oneSlash, singleSlashes_eq_self single, String.ofList_toList]

theorem adaptSeparators_slash (pattern : String) : adaptSeparators pattern "/" = pattern := by
  rw [adaptSeparators, if_neg (by decide)]

theorem adaptSeparators_backslash (pattern : String) :
    adaptSeparators pattern "\\" =
      String.ofList (Regex.escapedSlashes (oneSlash pattern).toList) := by
  rw [adaptSeparators, if_pos rfl, backslashed_eq, oneSlash, String.toList_ofList]

theorem searchRegex_eq_ok {pattern sep : String} {r : Regex} :
    searchRegex pattern sep = .ok r ↔ Regex.ofPattern (adaptSeparators pattern sep) = .ok r := by
  cases made : Regex.ofPattern (adaptSeparators pattern sep) with
  | ok r' => simp only [searchRegex, made, Except.ok.injEq]
  | error refusal => cases refusal <;> simp only [searchRegex, made, reduceCtorEq]

namespace Regex

/-! ## §2 Escapes -/

/-- Whether the escape of a character stands for something other than a separator,
whatever comes after it: a mark other than a separator, or the letter of a class. -/
def isPlainEscape (c : Char) : Bool :=
  (!c.isAlphanum && c != '/' && c != '\\') || (Reader.categoryItem? c).isSome

theorem isAlphanum_eq_false {c : Char} (mark : c.isAlphanum = false) :
    c.isAlpha = false ∧ c.isDigit = false := Bool.or_eq_false_iff.mp mark

section

variable {c : Char} (mark : c.isAlphanum = false) (backslash : c ≠ '\\') (s : ReaderState)
include mark

theorem ne_of_mark {d : Char} (known : d.isAlphanum = true) : c ≠ d := by
  rintro rfl
  rw [mark] at known
  cases known

theorem readCode_mark : Reader.readCode c = pure none := by
  unfold Reader.readCode
  split <;> first | rfl | exact absurd rfl (ne_of_mark mark (by decide))

theorem categoryItem?_mark : Reader.categoryItem? c = none := by
  unfold Reader.categoryItem?
  split <;> first | rfl | exact absurd rfl (ne_of_mark mark (by decide))

theorem isOctal_mark : Reader.isOctal c = false := by
  refine Bool.eq_false_iff.mpr fun octal => ?_
  obtain ⟨low, high⟩ := Bool.and_eq_true_iff.mp octal
  have digit : c.isDigit = true := by
    have low : '0'.val ≤ c.val := of_decide_eq_true low
    have high : c.val ≤ '7'.val := of_decide_eq_true high
    rw [Char.isDigit, Bool.and_eq_true, decide_eq_true_eq, decide_eq_true_eq]
    exact ⟨low, UInt32.le_trans high (by decide)⟩
  rw [(isAlphanum_eq_false mark).2] at digit
  cases digit

include backslash

theorem controlCode?_mark : Reader.controlCode? c = none := by
  unfold Reader.controlCode?
  split <;> first
    | rfl
    | exact absurd rfl (ne_of_mark mark (by decide))
    | exact absurd rfl backslash

theorem readSetEscape_mark : Reader.readSetEscape c s = .ok (.code c.toNat, s) := by
  obtain ⟨alpha, digit⟩ := isAlphanum_eq_false mark
  simp only [Reader.readSetEscape, ne_of_mark mark (d := 'b') (by decide), readCode_mark mark,
    controlCode?_mark mark backslash, categoryItem?_mark mark, isOctal_mark mark,
    Reader.plainEscape, alpha, digit]
  rfl

theorem readEscape_mark : Reader.readEscape c s = .ok (.code c.toNat, s) := by
  obtain ⟨alpha, digit⟩ := isAlphanum_eq_false mark
  have anchor : Reader.anchor? c = none := by
    unfold Reader.anchor?
    split <;> first | rfl | exact absurd rfl (ne_of_mark mark (by decide))
  simp only [Reader.readEscape, anchor, readCode_mark mark, controlCode?_mark mark backslash,
    categoryItem?_mark mark, Reader.plainEscape, alpha, digit]
  rfl

end

theorem not_standsForSeparator {c : Char} (plain : isPlainEscape c) (rest : List Char) :
    ¬StandsForSeparator c rest := by
  rcases Bool.or_eq_true_iff.mp plain with mark | letter
  · simp only [Bool.and_eq_true, Bool.not_eq_true', bne_iff_ne] at mark
    obtain ⟨⟨mark, slash⟩, backslash⟩ := mark
    rintro (eq | eq | ⟨n, separator, s, s', -, run⟩)
    · exact slash eq
    · exact backslash eq
    · simp only [readSetEscape_mark mark backslash, readEscape_mark mark backslash,
        Except.ok.injEq, Prod.mk.injEq, SetItem.code.injEq, Atom.code.injEq, or_self] at run
      rcases separator with eq | eq
      · exact slash (Char.toNat_inj.mp (run.1.trans eq))
      · exact backslash (Char.toNat_inj.mp (run.1.trans eq))
  · obtain ⟨item, found⟩ := Option.isSome_iff_exists.mp letter
    unfold Reader.categoryItem? at found
    split at found
    iterate 6
      rintro (eq | eq | ⟨n, separator, s, s', -, run | run⟩) <;> first | cases eq | cases run
    cases found

theorem plainlySeparated_of_escapes {text : List Char}
    (plain : ∀ p ∈ text.zip text.tail, p.1 = '\\' → isPlainEscape p.2) :
    PlainlySeparated text := by
  rintro before c rest rfl
  refine not_standsForSeparator (plain ('\\', c) ?_ rfl) rest
  clear plain
  induction before with
  | nil => exact List.mem_cons_self
  | cons d before ih => cases before <;> exact List.mem_cons_of_mem _ ih

/-! ## §3 Reading -/

/-- Patterns in which nothing but a slash means a separator: no escape stands for
one, no range begins or ends at a slash, and every set treats slash and backslash
alike. -/
structure SeparatesPlainly (pattern : String) : Prop where
  escapes : PlainlySeparated pattern.toList
  ranges : ∀ p, Pattern.read pattern = .ok p → ∀ item ∈ p.node.items, Reader.ClearOfSlash item
  sets : ∀ p, Pattern.read pattern = .ok p → ∀ items ∈ p.node.sets, Evenhanded items

theorem separatesPlainly_of_read {pattern : String}
    (escapes : ∀ p ∈ pattern.toList.zip pattern.toList.tail, p.1 = '\\' → isPlainEscape p.2)
    (read : ∀ p ∈ (Pattern.read pattern).toOption,
      (∀ item ∈ p.node.items, Reader.ClearOfSlash item) ∧
        ∀ items ∈ p.node.sets, Evenhanded items) : SeparatesPlainly pattern where
  escapes := plainlySeparated_of_escapes escapes
  ranges p given := (read p (by rw [given]; rfl)).1
  sets p given := (read p (by rw [given]; rfl)).2

/-- A pattern with its slashes as escaped backslashes is read as the pattern with
the separators exchanged. -/
theorem read_escaped {pattern : String} (plain : SeparatesPlainly pattern) {p : Pattern}
    (read : Pattern.read pattern = .ok p) :
    Pattern.read (.ofList (escapedSlashes pattern.toList)) =
      .ok { p with node := p.node.turned } := by
  obtain ⟨cursor, loaded, rest⟩ := bind_eq_ok.mp read
  obtain ⟨⟨node, s⟩, run, made⟩ := bind_eq_ok.mp rest
  cases made
  obtain ⟨cursor', loaded', cursors⟩ := Cursor.beside_load plain.escapes loaded 0
  have beside : ReaderState.Beside ⟨cursor, [], [], [none], none, []⟩
      ⟨cursor', [], [], [none], none, []⟩ := ⟨cursors, rfl, rfl, rfl, rfl, rfl⟩
  obtain ⟨_, s', run', rfl, beside'⟩ :=
    Reader.follows_readPattern beside node s run (plain.ranges _ read)
  rw [Pattern.read, String.toList_ofList, loaded', ok_bind]
  refine bind_eq_ok.mpr ⟨(node.turned, s'), run', ?_⟩
  change Except.ok (Pattern.mk node.turned s'.flags s'.widths) = _
  rw [beside'.flags, beside'.widths]

theorem ofPattern_escaped {pattern : String} (plain : SeparatesPlainly pattern) {r : TreeSift.Regex}
    (made : ofPattern pattern = .ok r) :
    ∃ r', ofPattern (.ofList (escapedSlashes pattern.toList)) = .ok r' ∧
      ∀ s : String, '\\' ∉ s.toList → r'.isFoundIn (s.map turn) = r.isFoundIn s := by
  obtain ⟨p, read, rest⟩ := bind_eq_ok.mp made
  obtain ⟨e, resolved, eq⟩ := bind_eq_ok.mp rest
  cases eq
  obtain ⟨e', resolved', same⟩ := turns_ofNode _ _ _ (plain.sets p read) e resolved
  refine ⟨⟨e', p.widths.length⟩, ?_, fun s none => isFoundIn_turned (by rfl) same none⟩
  rw [ofPattern, read_escaped plain read, ok_bind]
  exact bind_eq_ok.mpr ⟨e', resolved', rfl⟩

end Regex

/-! ## §4 Both separators -/

/-- **A pattern means the same on both separators.** Take a pattern with single
slashes in place of its runs of slashes, which is the pattern itself if none is
doubled. If it can be read and only its slashes mean separators, then the pattern
can be read where a backslash separates names, and what it finds there in a path
is what the one with single slashes finds in the path with slashes. -/
theorem search_regex_both_separators {pattern : String}
    (plain : Regex.SeparatesPlainly (oneSlash pattern)) {r : Regex}
    (compiled : searchRegex (oneSlash pattern) "/" = .ok r) :
    (¬['/', '/'] <:+: pattern.toList → oneSlash pattern = pattern) ∧
      ∃ r', searchRegex pattern "\\" = .ok r' ∧ ∀ s : String, '\\' ∉ s.toList →
        r'.isFoundIn (s.map fun c => if c = '/' then '\\' else c) = r.isFoundIn s := by
  refine ⟨oneSlash_eq_self, ?_⟩
  rw [searchRegex_eq_ok, adaptSeparators_slash] at compiled
  obtain ⟨r', made', same⟩ := Regex.ofPattern_escaped plain compiled
  refine ⟨r', searchRegex_eq_ok.mpr ?_, fun s none => ?_⟩
  · rw [adaptSeparators_backslash, made']
  · rw [← same s none]
    refine congrArg r'.isFoundIn (String.toList_inj.mp ?_)
    rw [String.toList_map, String.toList_map]
    refine List.map_congr_left fun c inside => ?_
    have other : c ≠ '\\' := fun eq => none (eq ▸ inside)
    rw [turn, if_neg other]

/-- Whether a pattern is found in a text, if it can be read for names that another
text separates. -/
def foundUnder (pattern sep text : String) : Option Bool :=
  (searchRegex pattern sep).toOption.map (·.isFoundIn text)

/-- Sources right below two directories. -/
theorem search_regex_sources :
    Regex.SeparatesPlainly (oneSlash "(src|lib)//[^/]+\\.(py|c)$") ∧
      ∃ r, searchRegex (oneSlash "(src|lib)//[^/]+\\.(py|c)$") "/" = .ok r ∧
        r.isFoundIn "a/lib/x.c" = true ∧ r.isFoundIn "a/lib/b/x.c" = false ∧
        ∃ r', searchRegex "(src|lib)//[^/]+\\.(py|c)$" "\\" = .ok r' ∧
          ∀ s : String, '\\' ∉ s.toList →
            r'.isFoundIn (s.map fun c => if c = '/' then '\\' else c) = r.isFoundIn s := by
  have plain : Regex.SeparatesPlainly (oneSlash "(src|lib)//[^/]+\\.(py|c)$") :=
    Regex.separatesPlainly_of_read (by decide +kernel) (by decide +kernel)
  have found : foundUnder (oneSlash "(src|lib)//[^/]+\\.(py|c)$") "/" "a/lib/x.c" = some true ∧
      foundUnder (oneSlash "(src|lib)//[^/]+\\.(py|c)$") "/" "a/lib/b/x.c" = some false := by
    decide +kernel
  cases compiled : searchRegex (oneSlash "(src|lib)//[^/]+\\.(py|c)$") "/" with
  | error e =>
    rw [foundUnder, compiled] at found
    exact absurd found.1 nofun
  | ok r =>
    rw [foundUnder, foundUnder, compiled] at found
    exact ⟨plain, r, rfl, Option.some.inj found.1, Option.some.inj found.2,
      (search_regex_both_separators plain compiled).2⟩

/-- Without its conditions the same does not hold: of a doubled slash one is left,
the escape of a slash becomes a backslash and the escape of what follows, other
escapes of separators stay, and so do the ends of ranges that should move. -/
theorem separators_told_apart :
    (foundUnder "//" "/" "a/b" = some false ∧ foundUnder "//" "\\" "a\\b" = some true) ∧
    (foundUnder "\\/" "/" "a/b" = some true ∧ foundUnder "\\/" "\\" "a\\b" = none) ∧
    (foundUnder "a\\\\b" "/" "a/b" = some false ∧
      foundUnder "a\\\\b" "\\" "a\\b" = some true) ∧
    (foundUnder "\\x2f" "/" "a/b" = some true ∧ foundUnder "\\x2f" "\\" "a\\b" = some false) ∧
    (foundUnder "[+-/]" "/" "7" = some false ∧ foundUnder "[+-/]" "\\" "7" = some true) ∧
    (foundUnder "[/-z]" "/" "7" = some true ∧ foundUnder "[/-z]" "\\" "7" = some false) ∧
    (foundUnder "[A-z]" "/" "1/2" = some false ∧
      foundUnder "[A-z]" "\\" "1\\2" = some true) := by
  decide +kernel

end TreeSift
