/-
  TreeSift.Proofs.Text.Slash — names and numbers hold no slash.

  Identifiers, names of characters and written whole numbers are told from other
  texts by tables and by rules for digits. None of them lets a slash through.

    §1 Identifiers      `not_mem_of_isIdentifier`
    §2 Character names  `not_mem_of_named?`
    §3 Whole numbers    `not_mem_of_readInteger`
-/
import Mathlib.Data.List.TakeWhile
import TreeSift.Decimal.Integer
import TreeSift.Text.CharacterName
import TreeSift.Text.Identifier

namespace TreeSift.Text

/-! ## §1 Identifiers -/

theorem not_mem_of_isIdentifier {name : List Char} (identifier : isIdentifier name = true) :
    '/' ∉ name := by
  have start : isIdentifierStart '/' = false := by decide +kernel
  have part : isIdentifierPart '/' = false := by decide +kernel
  cases name with
  | nil => exact List.not_mem_nil
  | cons c rest =>
    rw [isIdentifier, Bool.and_eq_true, List.all_eq_true] at identifier
    intro inside
    rcases List.mem_cons.mp inside with rfl | later
    · rw [start] at identifier
      exact Bool.false_ne_true identifier.1
    · exact Bool.false_ne_true (part.symm.trans (identifier.2 '/' later))

/-! ## §2 Character names -/

/-- Whether the bytes of a text hold no slash. The tables are looked through byte by
byte, which is cheaper than decoding their texts. -/
def freeOfSlash (s : String) : Bool :=
  s.toByteArray.data.toList.all fun b => !Nat.beq b.toNat 0x2F

theorem not_mem_of_freeOfSlash {s : String} (free : freeOfSlash s = true) : '/' ∉ s.toList := by
  intro inside
  have byte : 0x2F ∈ s.toByteArray.data.toList := by
    rw [← String.utf8Encode_toList, List.utf8Encode, List.data_toByteArray]
    exact List.mem_flatMap.mpr ⟨'/', inside, by decide⟩
  exact absurd (List.all_eq_true.mp free _ byte) (by decide)

theorem freeOfSlash_namedBlocks :
    (namedBlocks.all fun block => block.2.all freeOfSlash) = true := by
  decide +kernel

theorem freeOfSlash_singleNames : (singleNames.all fun entry => freeOfSlash entry.1) = true := by
  decide +kernel

theorem mem_toUpper {name : String} (inside : '/' ∈ name.toList) :
    '/' ∈ name.toUpper.toList := by
  rw [String.toUpper, String.toList_map]
  exact List.mem_map.mpr ⟨'/', inside, rfl⟩

theorem not_mem_of_ideograph? {name : String} {n : Nat} (found : ideograph? name = some n) :
    '/' ∉ name.toList := by
  unfold ideograph? at found
  dsimp only at found
  split at found
  · cases found
  next begins =>
    split at found
    · cases found
    split at found
    · cases found
    next digits =>
      simp only [Bool.not_eq_true', Bool.not_eq_false, List.isPrefixOf_iff_prefix] at begins digits
      obtain ⟨rest, split⟩ := begins
      rw [← split] at digits ⊢
      rw [← String.length_toList, List.drop_left] at digits
      intro inside
      rcases List.mem_append.mp inside with start | later
      · exact absurd start (by decide +kernel)
      · exact absurd (List.all_eq_true.mp digits _ later) (by decide)

theorem not_mem_of_named? {name : String} {n : Nat} (named : named? name = some n) :
    '/' ∉ name.toList := by
  intro inside
  have upper := mem_toUpper inside
  rw [named?] at named
  split at named
  · cases named
  · simp only [Option.or_eq_some_iff] at named
    rcases named with (ideograph | ⟨-, inBlock⟩) | ⟨-, alone⟩
    · exact not_mem_of_ideograph? ideograph inside
    · obtain ⟨block, member, found⟩ := List.exists_of_findSome?_eq_some inBlock
      obtain ⟨i, place, -⟩ := Option.map_eq_some_iff.mp found
      obtain ⟨lt, same, -⟩ := List.findIdx?_eq_some_iff_getElem.mp place
      rw [decide_eq_true_eq] at same
      have free := List.all_eq_true.mp freeOfSlash_namedBlocks block member
      exact not_mem_of_freeOfSlash (List.all_eq_true.mp free _ (List.getElem_mem lt)) (same ▸ upper)
    · obtain ⟨entry, found, -⟩ := Option.map_eq_some_iff.mp alone
      have same := List.find?_some found
      rw [decide_eq_true_eq] at same
      have free := List.all_eq_true.mp freeOfSlash_singleNames entry
        (List.mem_of_find?_eq_some found)
      exact not_mem_of_freeOfSlash free (same ▸ upper)

end TreeSift.Text

namespace TreeSift.Decimal

/-! ## §3 Whole numbers -/

theorem not_mem_of_readDigits {s ds : List Char} (read : readDigits s = some ds) : '/' ∉ s := by
  have other {c : Char} (digit : c.isDigit = true) : '/' ≠ c := by
    rintro rfl
    cases digit
  fun_induction readDigits s generalizing ds with
  | case1 => cases read
  | case2 c digit =>
    exact fun inside => other digit (List.mem_singleton.mp inside)
  | case3 => cases read
  | case4 c rest digit ih =>
    obtain ⟨_, later, -⟩ := Option.map_eq_some_iff.mp read
    simp only [List.mem_cons, not_or]
    exact ⟨other digit, by decide, ih later⟩
  | case5 => cases read
  | case6 c rest _ _ digit ih =>
    obtain ⟨_, later, -⟩ := Option.map_eq_some_iff.mp read
    exact List.not_mem_cons_of_ne_of_not_mem (other digit) (ih later)
  | case7 => cases read

theorem mem_dropWhile_of_not {p : Char → Bool} {c : Char} (other : p c = false) {s : List Char}
    (inside : c ∈ s) : c ∈ s.dropWhile p := by
  rw [← List.takeWhile_append_dropWhile (p := p) (l := s)] at inside
  rcases List.mem_append.mp inside with dropped | kept
  · exact absurd (List.mem_takeWhile_imp dropped) (by rw [other]; nofun)
  · exact kept

theorem not_mem_of_readInteger {s : String} {n : Int} (read : readInteger s = some n) :
    '/' ∉ s.toList := by
  intro inside
  have seen : '/' ∈ plain s.toList := by
    unfold plain
    split
    · exact inside
    · exact List.mem_map.mpr ⟨'/', inside, by decide +kernel⟩
  have trimmed : '/' ∈ trimSpaces (plain s.toList) :=
    List.mem_reverse.mpr (mem_dropWhile_of_not (by decide)
      (List.mem_reverse.mpr (mem_dropWhile_of_not (by decide) seen)))
  have signed : '/' ∈ (readSign (trimSpaces (plain s.toList))).2 := by
    generalize trimSpaces (plain s.toList) = text at trimmed
    unfold readSign
    split
    · exact List.mem_of_ne_of_mem (by decide) trimmed
    · exact List.mem_of_ne_of_mem (by decide) trimmed
    · exact trimmed
  unfold readInteger at read
  dsimp only at read
  split at read
  · cases read
  next digits => exact not_mem_of_readDigits digits signed

end TreeSift.Decimal
