/-
  TreeSift.Proofs.Rules.StructuredFile — rules listed in a structured text.

  A structured text of rules is to be a mapping with a list of texts, or nothing, under the
  key of rules (`Documented`). Whatever counts as nothing is taken for nothing, though: a
  truth value, a number, a text, bytes, a mapping or a set passes if it is false, zero or
  empty (`Value.IsHollow`). All other documents are refused, those without the key as having
  no list, the others for what they have instead (`structured_rule_file`).

    §1 Values  `mapM_toText?_eq_some_iff`, `isTruthy_eq_false_iff`
    §2 Lists   `Documented`, `listedRules_eq_ok_iff`, `listedRules_eq_error_iff`
    §3 Paths   `inEitherCase`, `isStructured_of_suffix`
    §4 Files   `readRuleLines_of_read`, `structured_rule_file`, `hollow_rules_pass`
-/
import Mathlib.Data.List.Basic
import TreeSift.Proofs.Fallible
import TreeSift.Proofs.Text.Pieces
import TreeSift.Rules.File

namespace TreeSift

/-! ## §1 Values -/

theorem Value.toText?_eq_some_iff {v : Value} {s : String} : v.toText? = some s ↔ v = .text s := by
  cases v with
  | scalar c => cases c <;> simp [Value.toText?, Value.text]
  | list items => simp [Value.toText?, Value.text]
  | mapping entries => simp [Value.toText?, Value.text]
  | set members => simp [Value.toText?, Value.text]
  | pair first second => simp [Value.toText?, Value.text]

/-- Values are texts one by one. -/
theorem Value.mapM_toText?_eq_some_iff {items : List Value} {texts : List String} :
    items.mapM Value.toText? = some texts ↔ items = texts.map Value.text := by
  induction items generalizing texts with
  | nil => cases texts <;> simp
  | cons v rest ih =>
    rw [List.mapM_cons]
    constructor
    · intro all
      obtain ⟨s, first, all⟩ := Option.bind_eq_some_iff.1 all
      obtain ⟨others, later, all⟩ := Option.bind_eq_some_iff.1 all
      obtain rfl := Option.some.inj all
      rw [List.map_cons, ← toText?_eq_some_iff.1 first, ← ih.1 later]
    · intro all
      cases texts with
      | nil => cases all
      | cons s others =>
        obtain ⟨rfl, later⟩ := List.cons.inj all
        rw [toText?_eq_some_iff.2 rfl, ih.2 later]
        rfl

/-- A value that counts as nothing, without being absent or a list: false, a zero, the
empty text, no bytes, the empty mapping or the empty set. -/
def Value.IsHollow (v : Value) : Prop :=
  v = .flag false ∨ v = .scalar (.int 0) ∨
    (∃ x : Binary64, x.isZero = true ∧ v = .scalar (.real x)) ∨ v = .text "" ∨
    v = .scalar (.bytes []) ∨ v = .mapping [] ∨ v = .set []

theorem Value.isTruthy_eq_false_iff {v : Value} :
    v.isTruthy = false ↔ v = .null ∨ v = .list [] ∨ v.IsHollow := by
  cases v with
  | scalar c =>
    cases c <;> simp [isTruthy, Scalar.isTruthy, IsHollow, null, flag, text]
  | list items => cases items <;> simp [isTruthy, IsHollow, null, flag, text]
  | mapping entries => cases entries <;> simp [isTruthy, IsHollow, null, flag, text]
  | set members => cases members <;> simp [isTruthy, IsHollow, null, flag, text]
  | pair first second => simp [isTruthy, IsHollow, null, flag, text]

/-! ## §2 Lists -/

/-- A document is a mapping, with a value under the key of rules. -/
def HasRules (v listed : Value) : Prop :=
  ∃ entries, v = .mapping entries ∧ Mapping.get? rulesKey entries = some listed

/-- A document as it is to be: what stands under the key of rules is nothing, or a list of
texts, which are the rules. -/
def Documented (v : Value) (rules : List String) : Prop :=
  ∃ listed, HasRules v listed ∧
    (listed = .null ∧ rules = [] ∨ listed = .list (rules.map Value.text))

/-- A document with a value under the key of rules that is none, but counts as nothing. -/
def HasHollowRules (v : Value) : Prop := ∃ listed, HasRules v listed ∧ listed.IsHollow

variable {path : String} {v listed : Value}

theorem listedRules_of_not_hasRules (h : ¬ ∃ listed, HasRules v listed) :
    listedRules path v = .error (.noList path) := by
  unfold listedRules
  split
  · rename_i entries
    split
    · rfl
    · rename_i listed found
      exact absurd ⟨listed, entries, rfl, found⟩ h
  · rfl

theorem listedRules_of_nothing (h : HasRules v listed) (nothing : listed.isTruthy = false) :
    listedRules path v = .ok [] := by
  obtain ⟨entries, rfl, found⟩ := h
  simp [listedRules, found, nothing]

theorem listedRules_of_texts {rules : List String}
    (h : HasRules v (.list (rules.map Value.text))) :
    listedRules path v = .ok rules := by
  cases rules with
  | nil => exact listedRules_of_nothing h rfl
  | cons first others =>
    obtain ⟨entries, rfl, found⟩ := h
    have texts : ((first :: others).map Value.text).mapM Value.toText? = some (first :: others) :=
      Value.mapM_toText?_eq_some_iff.2 rfl
    simp only [listedRules, found, texts]
    rfl

theorem listedRules_of_others (h : HasRules v listed) (something : listed.isTruthy = true)
    (noTexts : ∀ rules : List String, listed ≠ .list (rules.map Value.text)) :
    listedRules path v = .error (.notTexts path) := by
  obtain ⟨entries, rfl, found⟩ := h
  simp only [listedRules, found, something, Bool.not_true, Bool.false_eq_true, if_false]
  split
  · rename_i items
    split
    · rename_i texts read
      exact absurd (congrArg Value.list (Value.mapM_toText?_eq_some_iff.1 read)) (noTexts texts)
    · rfl
  · rfl

/-- What is listed depends on what stands under the key of rules. -/
theorem listedRules_cases (path : String) (v : Value) :
    (¬ ∃ listed, HasRules v listed) ∧ listedRules path v = .error (.noList path) ∨
    ∃ listed, HasRules v listed ∧
      (listed.isTruthy = false ∧ listedRules path v = .ok [] ∨
      (∃ rules : List String, listed = .list (rules.map Value.text) ∧
        listedRules path v = .ok rules) ∨
      listed.isTruthy = true ∧ (∀ rules : List String, listed ≠ .list (rules.map Value.text)) ∧
        listedRules path v = .error (.notTexts path)) := by
  by_cases has : ∃ listed, HasRules v listed
  · obtain ⟨listed, has⟩ := has
    refine .inr ⟨listed, has, ?_⟩
    cases counts : listed.isTruthy with
    | false => exact .inl ⟨rfl, listedRules_of_nothing has counts⟩
    | true =>
      by_cases texts : ∃ rules : List String, listed = .list (rules.map Value.text)
      · obtain ⟨rules, rfl⟩ := texts
        exact .inr (.inl ⟨rules, rfl, listedRules_of_texts has⟩)
      · exact .inr (.inr ⟨rfl, not_exists.1 texts,
          listedRules_of_others has counts (not_exists.1 texts)⟩)
  · exact .inl ⟨has, listedRules_of_not_hasRules has⟩

/-- The rules of a document are those of its list, or none where something counts as
nothing. -/
theorem listedRules_eq_ok_iff {rules : List String} :
    listedRules path v = .ok rules ↔ Documented v rules ∨ HasHollowRules v ∧ rules = [] := by
  constructor
  · intro read
    rcases listedRules_cases path v with ⟨-, other⟩ |
      ⟨listed, has, ⟨counts, same⟩ | ⟨texts, rfl, same⟩ | ⟨-, -, other⟩⟩
    · rw [other] at read
      cases read
    · obtain rfl := Except.ok.inj (same.symm.trans read)
      rcases Value.isTruthy_eq_false_iff.1 counts with absent | empty | hollow
      · exact .inl ⟨listed, has, .inl ⟨absent, rfl⟩⟩
      · exact .inl ⟨listed, has, .inr empty⟩
      · exact .inr ⟨⟨listed, has, hollow⟩, rfl⟩
    · obtain rfl := Except.ok.inj (same.symm.trans read)
      exact .inl ⟨_, has, .inr rfl⟩
    · rw [other] at read
      cases read
  · rintro (⟨listed, has, ⟨rfl, rfl⟩ | rfl⟩ | ⟨⟨listed, has, hollow⟩, rfl⟩)
    · exact listedRules_of_nothing has rfl
    · exact listedRules_of_texts has
    · exact listedRules_of_nothing has (Value.isTruthy_eq_false_iff.2 (.inr (.inr hollow)))

/-- A value under the key of rules that is something, and no list of texts. -/
def IsOther (listed : Value) : Prop :=
  listed ≠ .null ∧ ¬ listed.IsHollow ∧ ∀ rules : List String, listed ≠ .list (rules.map Value.text)

theorem isOther_iff : IsOther listed ↔
    listed.isTruthy = true ∧ ∀ rules : List String, listed ≠ .list (rules.map Value.text) := by
  rw [← Bool.not_eq_false, Value.isTruthy_eq_false_iff]
  constructor
  · rintro ⟨there, solid, noTexts⟩
    refine ⟨?_, noTexts⟩
    rintro (absent | empty | hollow)
    · exact there absent
    · exact noTexts [] empty
    · exact solid hollow
  · rintro ⟨something, noTexts⟩
    exact ⟨fun absent => something (.inl absent), fun hollow => something (.inr (.inr hollow)),
      noTexts⟩

/-- A document is refused for having nothing under the key of rules, or for what it has. -/
theorem listedRules_eq_error_iff {e : RuleFileError} :
    listedRules path v = .error e ↔
      e = .noList path ∧ (¬ ∃ listed, HasRules v listed) ∨
      e = .notTexts path ∧ ∃ listed, HasRules v listed ∧ IsOther listed := by
  constructor
  · intro refused
    rcases listedRules_cases path v with ⟨nothing, other⟩ |
      ⟨listed, has, ⟨-, same⟩ | ⟨texts, -, same⟩ | ⟨something, noTexts, other⟩⟩
    · exact .inl ⟨Except.error.inj (refused.symm.trans other), nothing⟩
    · cases same.symm.trans refused
    · cases same.symm.trans refused
    · exact .inr ⟨Except.error.inj (refused.symm.trans other), listed, has,
        isOther_iff.2 ⟨something, noTexts⟩⟩
  · rintro (⟨rfl, nothing⟩ | ⟨rfl, listed, has, other⟩)
    · exact listedRules_of_not_hasRules nothing
    · obtain ⟨something, noTexts⟩ := isOther_iff.1 other
      exact listedRules_of_others has something noTexts

/-! ## §3 Paths -/

/-- The ways to write letters, each small or as a capital. -/
def inEitherCase : List Char → List (List Char)
  | [] => [[]]
  | c :: rest => (inEitherCase rest).flatMap fun s => [c :: s, c.toUpper :: s]

/-- The suffixes of structured texts. -/
def structuredSuffixes : List (List Char) :=
  inEitherCase "yaml".toList ++ inEitherCase "yml".toList

/-- The suffix of a name is what follows its last dot. -/
theorem suffixOf_append {stem ext : List Char} (named : stem ≠ []) (some : ext ≠ [])
    (noDot : '.' ∉ ext) : suffixOf (stem ++ '.' :: ext) = '.' :: ext := by
  have after : (stem ++ '.' :: ext).reverse.takeWhile (· ≠ '.') = ext.reverse := by
    rw [List.reverse_append, List.reverse_cons, List.append_assoc, List.takeWhile_append_of_pos]
    · simp
    · intro c hc
      rw [decide_eq_true_iff]
      rintro rfl
      exact noDot (List.mem_reverse.1 hc)
  have length : (stem ++ '.' :: ext).length = stem.length + 1 + ext.length := by
    simp only [List.length_append, List.length_cons]
    omega
  have stemLength : 0 < stem.length := List.length_pos_iff.2 named
  have shorter : ext.length < stem.length + 1 + ext.length := by omega
  rw [suffixOf, after, length, List.length_reverse, List.reverse_reverse, if_pos]
  simp [shorter, some, stemLength]

/-- The last piece of a path is the name after its last slash. -/
theorem getLast?_pathParts {path : String} {before name : List Char}
    (whole : path.toList = before ++ name) (separate : before = [] ∨ ∃ up, before = up ++ ['/'])
    (single : '/' ∉ name) (named : name ≠ []) (noDot : name ≠ ['.']) :
    (pathParts path).getLast? = some (String.ofList name) := by
  have cut : ∃ more, Text.pieces '/' path.toList = more ++ [name] := by
    rcases separate with rfl | ⟨up, rfl⟩
    · exact ⟨[], by rw [whole, List.nil_append, Text.pieces_of_not_mem single, List.nil_append]⟩
    · refine ⟨Text.pieces '/' up, ?_⟩
      rw [whole, List.append_assoc, List.singleton_append, Text.pieces_append,
        Text.pieces_of_not_mem single]
  obtain ⟨more, cut⟩ := cut
  rw [pathParts, cut, List.filter_append, List.filter_cons_of_pos (by simp [named, noDot]),
    List.filter_nil, List.map_append, List.map_singleton, List.getLast?_concat]

/-- A name that ends in one of the suffixes, in any case, is that of a structured text. -/
theorem isStructured_of_suffix {path : String} {before stem ext : List Char}
    (whole : path.toList = before ++ (stem ++ '.' :: ext))
    (separate : before = [] ∨ ∃ up, before = up ++ ['/']) (named : stem ≠ [])
    (single : '/' ∉ stem) (known : ext ∈ structuredSuffixes) : isStructured path = true := by
  have table : ∀ ext ∈ structuredSuffixes, ext ≠ [] ∧ '.' ∉ ext ∧ '/' ∉ ext ∧
      (Text.lower (String.ofList ('.' :: ext)) = ".yaml" ∨
        Text.lower (String.ofList ('.' :: ext)) = ".yml") := by decide +kernel
  obtain ⟨some, noDot, noSlash, lower⟩ := table ext known
  have last : (pathParts path).getLast? = Option.some (String.ofList (stem ++ '.' :: ext)) := by
    refine getLast?_pathParts whole separate ?_ (by simp [named]) ?_
    · simp [single, noSlash]
    · intro same
      have length := congrArg List.length same
      have stemLength : 0 < stem.length := List.length_pos_iff.2 named
      simp at length
      omega
  rw [isStructured, suffix, last, Option.getD_some, String.toList_ofList,
    suffixOf_append named some noDot]
  rcases lower with yaml | yml
  · rw [yaml]
    rfl
  · rw [yml]
    rfl

/-! ## §4 Files -/

section Files

variable {d : Disk} {encoding text : String} {content : ByteArray} {known : Encoding}

theorem rulesOfContent_of_text (named : Encoding.ofName? encoding = some known)
    (decoded : known.decode content = .ok text) :
    rulesOfContent path encoding content = rulesOfText path (Text.plainBreaks text) := by
  rw [rulesOfContent, named]
  dsimp only
  rw [decoded]

/-- What is read from a structured text is what its document lists. -/
theorem rulesOfText_of_value (structured : isStructured path = true)
    (parsed : Document.read text = .ok v) :
    rulesOfText path text = (listedRules path v).mapError .file := by
  rw [rulesOfText, if_pos structured, parsed]

/-- What is read from a file of a structured text is what its document lists, unless the
file is too large. -/
theorem readRuleLines_of_read (stored : d.file? path = some content)
    (structured : isStructured path = true) (named : Encoding.ofName? encoding = some known)
    (decoded : known.decode content = .ok text)
    (parsed : Document.read (Text.plainBreaks text) = .ok v) :
    readRuleLines d path encoding =
      if maxRuleFileSize < content.size then .error (.file (.tooLarge path))
      else (listedRules path v).mapError .file := by
  rw [readRuleLines_of_file stored, rulesOfContent_of_text named decoded,
    rulesOfText_of_value structured parsed]

/-- **What a structured text of rules has to be.** A file whose name ends in .yaml or .yml, in
any case, after something else, holds a structured text. If it can be decoded and parsed and is
not too large, its rules are the texts that are listed under the key of rules, in order, and
none if the key stands for nothing; besides, none are read where the value there is false, a
zero, the empty text, no bytes, the empty mapping or the empty set. All other documents are
refused, whatever stands under the key, with an error of a file of rules: those that are no
mapping or lack the key as having no list, the others as listing something else than texts. -/
theorem structured_rule_file (stored : d.file? path = some content)
    (structured : isStructured path = true) (named : Encoding.ofName? encoding = some known)
    (decoded : known.decode content = .ok text)
    (parsed : Document.read (Text.plainBreaks text) = .ok v) :
    (∀ rules, readRuleLines d path encoding = .ok rules ↔
      content.size ≤ maxRuleFileSize ∧ (Documented v rules ∨ HasHollowRules v ∧ rules = [])) ∧
    (∀ failure, readRuleLines d path encoding = .error failure ↔
      failure = .file (.tooLarge path) ∧ maxRuleFileSize < content.size ∨
      content.size ≤ maxRuleFileSize ∧
        (failure = .file (.noList path) ∧ (¬ ∃ listed, HasRules v listed) ∨
          failure = .file (.notTexts path) ∧ ∃ listed, HasRules v listed ∧ IsOther listed)) ∧
    (∀ (path : String) (before stem ext : List Char),
      path.toList = before ++ (stem ++ '.' :: ext) → (before = [] ∨ ∃ up, before = up ++ ['/']) →
        stem ≠ [] → '/' ∉ stem → ext ∈ structuredSuffixes → isStructured path = true) := by
  have read := readRuleLines_of_read stored structured named decoded parsed
  refine ⟨?_, ?_, fun path before stem ext => isStructured_of_suffix⟩
  · intro rules
    rw [read]
    split
    · rename_i large
      simp [Nat.not_le.2 large]
    · rename_i small
      rw [Fallible.mapError_eq_ok, listedRules_eq_ok_iff, and_iff_right (Nat.not_lt.1 small)]
  · intro failure
    rw [read]
    split
    · rename_i large
      simp [large, Nat.not_le.2 large, eq_comm]
    · rename_i small
      rw [Fallible.mapError_eq_error]
      constructor
      · rintro ⟨e, refused, rfl⟩
        refine .inr ⟨Nat.not_lt.1 small, ?_⟩
        rcases listedRules_eq_error_iff.1 refused with ⟨rfl, nothing⟩ | ⟨rfl, other⟩
        · exact .inl ⟨rfl, nothing⟩
        · exact .inr ⟨rfl, other⟩
      · rintro (⟨-, large⟩ | ⟨-, ⟨rfl, nothing⟩ | ⟨rfl, other⟩⟩)
        · exact absurd large small
        · exact ⟨_, listedRules_eq_error_iff.2 (.inl ⟨rfl, nothing⟩), rfl⟩
        · exact ⟨_, listedRules_eq_error_iff.2 (.inr ⟨rfl, other⟩), rfl⟩

end Files

/-- A list of rules, one of them without a character. -/
def listText : String := "rules:\n  - \"+wf:*\"\n  - ''\n"

/-- The list is read from a file whose suffix is written in both cases. -/
theorem structured_rules_listed :
    ∃ v, Document.read (Text.plainBreaks listText) = .ok v ∧
      isStructured "up/Rules.YmL" = true ∧
      readRuleLines (Disk.empty.write "up/Rules.YmL" (some listText.toUTF8)) "up/Rules.YmL"
        "utf-8" = .ok ["+wf:*", ""] ∧
      Documented v ["+wf:*", ""] := by
  have parsed := Fallible.eq_ok_of_isOk (x := Document.read (Text.plainBreaks listText))
    (by decide +kernel) .null
  have stored : (Disk.empty.write "up/Rules.YmL" (some listText.toUTF8)).file? "up/Rules.YmL" =
      some listText.toUTF8 := by decide +kernel
  have named : Encoding.ofName? "utf-8" = some .utf8 := by decide +kernel
  have decoded : Encoding.decode .utf8 listText.toUTF8 = .ok listText := by decide +kernel
  have read : readRuleLines (Disk.empty.write "up/Rules.YmL" (some listText.toUTF8))
      "up/Rules.YmL" "utf-8" = .ok ["+wf:*", ""] := by decide +kernel
  obtain ⟨passes, -, suffixes⟩ :=
    structured_rule_file stored (by decide +kernel) named decoded parsed
  have structured : isStructured "up/Rules.YmL" = true :=
    suffixes _ "up/".toList "Rules".toList "YmL".toList (by decide) (.inr ⟨"up".toList, by decide⟩)
      (by decide) (by decide) (by decide)
  obtain ⟨-, documented | ⟨-, none⟩⟩ := (passes _).1 read
  · exact ⟨_, parsed, structured, read, documented⟩
  · cases none

/-- A zero under the key of rules is neither nothing nor a list of texts, and is read as an
empty list all the same. -/
theorem hollow_rules_pass :
    ∃ v, Document.read (Text.plainBreaks "rules: 0\n") = .ok v ∧
      readRuleLines (Disk.empty.write "r.yaml" (some "rules: 0\n".toUTF8)) "r.yaml" "utf-8" =
        .ok [] ∧
      ¬ ∃ rules, Documented v rules := by
  have parsed := Fallible.eq_ok_of_isOk (x := Document.read (Text.plainBreaks "rules: 0\n"))
    (by decide +kernel) .null
  refine ⟨_, parsed, by decide +kernel, ?_⟩
  have kind : (Mapping.get? rulesKey ((Document.read (Text.plainBreaks "rules: 0\n")).toOption.getD
      .null).entries).map Value.kindName = some "int" := by decide +kernel
  rintro ⟨rules, listed, ⟨entries, whole, found⟩, form⟩
  rw [whole, Value.entries, found] at kind
  rcases form with ⟨rfl, -⟩ | rfl <;> simp [Value.kindName, Value.null] at kind

end TreeSift
