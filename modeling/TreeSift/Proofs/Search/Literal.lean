/-
  TreeSift.Proofs.Search.Literal — patterns without wildcards.

  A pattern whose segments hold no wildcard describes the names that are alike to its
  segments character by character (`fits_literals_iff`). A set of paths compares
  foldings, and these go name by name, since nothing but a slash folds to one
  (`pathKey_names_iff`). So looking for such a pattern and asking the set of all
  entries for its path are two ways to the same answer, as far as likeness and folding
  agree on the characters at hand (`search_literal`). Where they do not, the answers
  differ (`literal_patterns_told_apart`).

    §1 Keys      `foldings`, `pathKey_names_iff`
    §2 Names     `likenesses`, `foldings_of_likenesses`, `fits_literals_iff`
    §3 Entries   `LeadsAlong`, `reached_literals_iff`
    §4 Searches  `search_literal`
-/
import Mathlib.Data.List.Forall2
import TreeSift.Proofs.Glob.Cutting
import TreeSift.Proofs.PathSet.Behind
import TreeSift.Proofs.PathSet.Operators
import TreeSift.Proofs.Pattern.NormalForm
import TreeSift.Proofs.Search.Regex
import TreeSift.Proofs.Search.Success
import TreeSift.Proofs.Search.Wildcard
import TreeSift.Proofs.Text.Case

namespace TreeSift

open Tree (pathTo relativeText stem)

/-! ## §1 Keys -/

namespace Text

theorem mem_foldCodes {n m : Nat} (inside : m ∈ foldCodes n) (valid : n.isValidChar) :
    m.isValidChar ∧ (m = n ∨ 0x2F < m) := by
  have runs : ∀ r ∈ foldRuns, r.Valid ∧ 0x2F < r.image := by decide +kernel
  have several : ∀ p ∈ foldExpansions, ∀ m ∈ p.2, 0x2F < m ∧ m < 0xD800 := by decide +kernel
  cases found : foldExpansions.lookup n with
  | some image =>
    rw [foldCodes, found, Option.getD_some] at inside
    obtain ⟨above, below⟩ := several (n, image) (mem_of_lookup found) m inside
    exact ⟨.inl below, .inr above⟩
  | none =>
    rw [foldCodes, found, Option.getD_none, List.mem_singleton] at inside
    subst inside
    refine ⟨isValidChar_mapCode (fun r inside => (runs r inside).1) valid, ?_⟩
    rcases mapCode_eq foldRuns n with same | ⟨r, inside, -, image⟩
    · exact .inl same
    · have := (runs r inside).2
      exact .inr (by omega)

/-- Nothing but a slash folds to a slash. -/
theorem slash_mem_foldChar {c : Char} : '/' ∈ foldChar c ↔ c = '/' := by
  constructor
  · intro inside
    rw [foldChar_eq, List.mem_map] at inside
    obtain ⟨m, inside, slash⟩ := inside
    obtain ⟨valid, same | above⟩ := mem_foldCodes inside c.valid
    · rw [← slash, same, Char.ofNat_toNat]
    · have code : m = 0x2F := (ofNat_inj valid (by decide)).1 slash
      omega
  · rintro rfl
    decide

theorem slash_not_mem_fold {s : List Char} (none : '/' ∉ s) : '/' ∉ s.flatMap foldChar := by
  intro inside
  obtain ⟨c, here, folded⟩ := List.mem_flatMap.1 inside
  exact none (slash_mem_foldChar.1 folded ▸ here)

/-- Names that are joined by slashes are folded one by one. -/
theorem flatMap_foldChar_joined (names : List (List Char)) :
    (joined '/' names).flatMap foldChar = joined '/' (names.map fun s => s.flatMap foldChar) := by
  induction names with
  | nil => rfl
  | cons s rest ih =>
    cases rest with
    | nil => rfl
    | cons t more =>
      have slash : foldChar '/' = ['/'] := by decide
      have step : joined '/' (s :: t :: more) = s ++ '/' :: joined '/' (t :: more) := rfl
      rw [step, List.flatMap_append, List.flatMap_cons, slash, ih]
      rfl

/-- Texts without slashes can be told from what they are joined to. -/
theorem joined_inj {ps qs : List (List Char)} (ne : ps ≠ []) (ne' : qs ≠ [])
    (plain : ∀ p ∈ ps, '/' ∉ p) (plain' : ∀ q ∈ qs, '/' ∉ q) :
    joined '/' ps = joined '/' qs ↔ ps = qs := by
  refine ⟨fun same => ?_, congrArg (joined '/')⟩
  rw [← pieces_joined ne plain, same, pieces_joined ne' plain']

end Text

/-- The foldings of names, one by one. -/
def foldings (names : List String) : List (List Char) :=
  names.map fun n => n.toList.flatMap Text.foldChar

theorem fold_names (names : List String) :
    ("/".intercalate names).toList.flatMap Text.foldChar = Text.joined '/' (foldings names) := by
  rw [← relativeText_eq, relativeText, Text.flatMap_foldChar_joined, List.map_map]
  rfl

theorem slash_not_mem_foldings {names : List String} (plain : ∀ n ∈ names, '/' ∉ n.toList) :
    ∀ p ∈ foldings names, '/' ∉ p := by
  intro p inside
  obtain ⟨n, hn, rfl⟩ := List.mem_map.1 inside
  exact Text.slash_not_mem_fold (plain n hn)

/-- Names joined by slashes have the same key exactly if they have the same folding
one by one. -/
theorem pathKey_names_iff {names others : List String} (ne : names ≠ []) (ne' : others ≠ [])
    (plain : ∀ n ∈ names, '/' ∉ n.toList) (plain' : ∀ n ∈ others, '/' ∉ n.toList) :
    pathKey ("/".intercalate names) = pathKey ("/".intercalate others) ↔
      foldings names = foldings others := by
  rw [pathKey, pathKey, Text.fold, Text.fold, String.ofList_inj, fold_names, fold_names]
  exact Text.joined_inj (mt List.map_eq_nil_iff.1 ne) (mt List.map_eq_nil_iff.1 ne')
    (slash_not_mem_foldings plain) (slash_not_mem_foldings plain')

/-! ## §2 Names -/

/-- Names whose characters are replaced by those that stand for all alike ones. -/
def likenesses (names : List String) : List (List Char) :=
  names.map fun n => n.toList.map Text.likeness

/-- Whether all characters of names have a property. -/
def HoldsIn (P : Char → Prop) (names : List String) : Prop := ∀ n ∈ names, ∀ c ∈ n.toList, P c

-- Going through the characters at hand, not through all that there are.
instance (P : Char → Prop) [DecidablePred P] : DecidablePred (HoldsIn P) := fun names =>
  have (n : String) : Decidable (∀ c ∈ n.toList, P c) := List.decidableBAll P n.toList
  List.decidableBAll (fun n : String => ∀ c ∈ n.toList, P c) names

theorem Text.forall₂_alike_iff {s t : List Char} :
    List.Forall₂ (fun c d => alike c d = true) s t ↔ s.map likeness = t.map likeness := by
  rw [← List.forall₂_eq_eq_eq, List.forall₂_map_left_iff, List.forall₂_map_right_iff]
  simp only [alike, beq_iff_eq]

/-- If a function does not tell apart what another one does not, then the same holds of
lists. -/
theorem map_eq_of_map_eq {α β γ : Type} {f : α → β} {g : α → γ} {P : α → Prop}
    (finer : ∀ a b, P a → P b → f a = f b → g a = g b) {as bs : List α}
    (same : as.map f = bs.map f) (left : ∀ a ∈ as, P a) (right : ∀ b ∈ bs, P b) :
    as.map g = bs.map g := by
  induction as generalizing bs with
  | nil => rw [List.map_eq_nil_iff.1 same.symm]
  | cons a as ih =>
    obtain ⟨b, bs, rfl, first, rest⟩ := List.map_eq_cons_iff.1 same.symm
    rw [List.forall_mem_cons] at left right
    rw [List.map_cons, List.map_cons, finer a b left.1 right.1 first.symm,
      ih rest.symm left.2 right.2]

/-- Names that are alike have the same foldings, if their characters are plain. -/
theorem foldings_of_likenesses {names others : List String}
    (same : likenesses names = likenesses others) (left : HoldsIn Text.IsPlain names)
    (right : HoldsIn Text.IsPlain others) : foldings names = foldings others :=
  map_eq_of_map_eq (fun _ _ plain plain' alike =>
    Text.flatMap_foldChar_of_alike (Text.forall₂_alike_iff.2 alike) plain plain') same left right

/-- Names with the same foldings are alike, if their characters fold to one each. -/
theorem likenesses_of_foldings {names others : List String}
    (same : foldings names = foldings others) (left : HoldsIn Text.IsSingle names)
    (right : HoldsIn Text.IsSingle others) : likenesses names = likenesses others :=
  map_eq_of_map_eq (fun _ _ single single' folded =>
    Text.forall₂_alike_iff.1 (Text.alike_of_flatMap_foldChar folded single single')) same left right

namespace Pattern

/-- Whether a segment holds no wildcard. -/
def IsLiteral (segment : String) : Prop := '*' ∉ segment.toList ∧ '?' ∉ segment.toList

instance : DecidablePred IsLiteral := fun segment =>
  inferInstanceAs (Decidable ('*' ∉ segment.toList ∧ '?' ∉ segment.toList))

theorem IsLiteral.isMultiLevel {segment : String} (literal : IsLiteral segment) :
    isMultiLevel segment = false := by
  refine eq_false_of_ne_true fun marker => ?_
  rw [TreeSift.isMultiLevel, Bool.and_eq_true, decide_eq_true_eq, List.all_eq_true,
    ← String.length_toList] at marker
  obtain ⟨long, stars⟩ := marker
  obtain ⟨c, inside⟩ := List.exists_mem_of_length_pos (by omega : 0 < segment.toList.length)
  exact literal.1 (of_decide_eq_true (stars c inside) ▸ inside)

theorem IsLiteral.covers_iff {segment name : String} (literal : IsLiteral segment) :
    (Glob.ofText segment).covers name = true ↔
      name.toList.map Text.likeness = segment.toList.map Text.likeness := by
  rw [Glob.covers_iff_cuts, Glob.cuts_letters literal.1 literal.2, Text.forall₂_alike_iff, eq_comm]

end Pattern

/-- Segments without wildcards describe the names that are alike to them. -/
theorem Wildcard.fits_literals_iff {target : Target} {segments names : List String}
    (literal : ∀ s ∈ segments, Pattern.IsLiteral s) :
    Fits target segments names ↔ likenesses names = likenesses segments := by
  induction segments generalizing names with
  | nil => exact fits_nil_iff.trans List.map_eq_nil_iff.symm
  | cons s rest ih =>
    obtain ⟨first, others⟩ := List.forall_mem_cons.1 literal
    rw [fits_name_iff first.isMultiLevel, likenesses, likenesses, List.map_cons,
      List.map_eq_cons_iff]
    simp only [first.covers_iff, ih others]
    rfl

/-! ## §3 Entries -/

/-- Whether all characters of a path have a property, those of the root apart that it
begins with. -/
def HoldsBehind (P : Char → Prop) (root path : String) : Prop :=
  ∀ c ∈ path.toList.drop root.length, P c

instance (P : Char → Prop) [DecidablePred P] (root path : String) :
    Decidable (HoldsBehind P root path) :=
  List.decidableBAll P (path.toList.drop root.length)

theorem Text.mem_joined {sep c : Char} {ps : List (List Char)} {p : List Char} (inside : p ∈ ps)
    (here : c ∈ p) : c ∈ joined sep ps := by
  induction ps with
  | nil => exact absurd inside List.not_mem_nil
  | cons q rest ih =>
    cases rest with
    | nil => exact List.mem_singleton.1 inside ▸ here
    | cons r more =>
      have step : joined sep (q :: r :: more) = q ++ sep :: joined sep (r :: more) := rfl
      rw [step, List.mem_append]
      rcases List.mem_cons.1 inside with rfl | later
      · exact .inl here
      · exact .inr (List.mem_cons_of_mem _ (ih later))

/-- What holds behind the root holds in all names. -/
theorem HoldsBehind.holdsIn {P : Char → Prop} {root : String} {names : List String}
    (behind : HoldsBehind P root (pathTo root names)) (ne : names ≠ [])
    (areNames : ∀ n ∈ names, IsName n) : HoldsIn P names := by
  intro n hn c hc
  refine behind c ?_
  have named : c ∈ relativeText names := Text.mem_joined (List.mem_map_of_mem hn) hc
  rw [Tree.toList_pathTo ne areNames, ← String.length_toList, stem]
  split
  · rwa [List.drop_left]
  · rw [String.toList_append, List.append_assoc, List.drop_left]
    exact List.mem_append_right _ named

/-- Whether a path leads from a root through names that are alike to some segments. -/
def LeadsAlong (root : String) (segments : List String) (path : String) : Prop :=
  ∃ names, (∀ n ∈ names, IsName n) ∧ likenesses names = likenesses segments ∧
    path = pathTo root names

/-- The path that segments write below a root. -/
def writtenPath (root : String) (segments : List String) : String :=
  stem root ++ "/".intercalate segments

theorem pathTo_eq_writtenPath {root : String} {names : List String} (ne : names ≠ [])
    (areNames : ∀ n ∈ names, IsName n) : pathTo root names = writtenPath root names :=
  Tree.pathTo_eq ne areNames

theorem pathKey_writtenPath_iff {root : String} {names others : List String} (ne : names ≠ [])
    (ne' : others ≠ []) (plain : ∀ n ∈ names, '/' ∉ n.toList)
    (plain' : ∀ n ∈ others, '/' ∉ n.toList) :
    pathKey (writtenPath root names) = pathKey (writtenPath root others) ↔
      foldings names = foldings others := by
  rw [writtenPath, writtenPath, pathKey_append, pathKey_names_iff ne ne' plain plain']

theorem ne_nil_of_likenesses {names others : List String}
    (same : likenesses names = likenesses others) (ne : others ≠ []) : names ≠ [] := by
  rintro rfl
  exact ne (List.map_eq_nil_iff.1 same.symm)

/-- Plain paths along the same segments have one key. -/
theorem LeadsAlong.pathKey_eq {root : String} {segments : List String} {p q : String}
    (left : LeadsAlong root segments p) (right : LeadsAlong root segments q) (ne : segments ≠ [])
    (plain : HoldsBehind Text.IsPlain root p) (plain' : HoldsBehind Text.IsPlain root q) :
    pathKey p = pathKey q := by
  obtain ⟨names, areNames, same, rfl⟩ := left
  obtain ⟨others, areNames', same', rfl⟩ := right
  have some := ne_nil_of_likenesses same ne
  have some' := ne_nil_of_likenesses same' ne
  rw [pathTo_eq_writtenPath some areNames, pathTo_eq_writtenPath some' areNames']
  exact (pathKey_writtenPath_iff some some' (fun n hn => (areNames n hn).no_slash)
    fun n hn => (areNames' n hn).no_slash).2 (foldings_of_likenesses (same.trans same'.symm)
      (plain.holdsIn some areNames) (plain'.holdsIn some' areNames'))

/-- A plain path along plain segments has the key of the path that they write. -/
theorem LeadsAlong.pathKey_eq_written {root : String} {segments : List String} {p : String}
    (along : LeadsAlong root segments p) (ne : segments ≠ [])
    (whole : ∀ s ∈ segments, '/' ∉ s.toList) (plain : HoldsBehind Text.IsPlain root p)
    (plain' : HoldsIn Text.IsPlain segments) : pathKey p = pathKey (writtenPath root segments) := by
  obtain ⟨names, areNames, same, rfl⟩ := along
  have some := ne_nil_of_likenesses same ne
  rw [pathTo_eq_writtenPath some areNames]
  exact (pathKey_writtenPath_iff some ne (fun n hn => (areNames n hn).no_slash) whole).2
    (foldings_of_likenesses same (plain.holdsIn some areNames) plain')

/-- A path with the key of the one that segments write leads along these, if all
characters fold to one each. -/
theorem leadsAlong_of_pathKey_eq {root : String} {segments names : List String}
    (key : pathKey (pathTo root names) = pathKey (writtenPath root segments))
    (some : names ≠ []) (areNames : ∀ n ∈ names, IsName n) (ne : segments ≠ [])
    (whole : ∀ s ∈ segments, '/' ∉ s.toList)
    (single : HoldsBehind Text.IsSingle root (pathTo root names))
    (single' : HoldsIn Text.IsSingle segments) : LeadsAlong root segments (pathTo root names) := by
  rw [pathTo_eq_writtenPath some areNames, pathKey_writtenPath_iff some ne
    (fun n hn => (areNames n hn).no_slash) whole] at key
  exact ⟨names, areNames, likenesses_of_foldings key (single.holdsIn some areNames) single', rfl⟩

/-- All entries are listed by their names. -/
theorem Tree.names_of_listed {t here : Tree} {root : String} (h : t.resolve? root = some here)
    (wf : here.WellFormed) {target : Target} {all : List String}
    (listed : t.descendants root (Glob.ofText "*") target = .ok all) {p : String}
    (inside : p ∈ all) : ∃ names, names ≠ [] ∧ (∀ n ∈ names, IsName n) ∧ p = pathTo root names := by
  rw [Wildcard.ofText_star] at listed
  obtain ⟨qs, rfl, members, -⟩ := descendants_everyName h wf listed
  obtain ⟨q, hq, rfl⟩ := List.mem_map.1 inside
  exact ⟨q.names, q.names_ne_nil, (wf.of_at? ((members q).1 hq).1).1, rfl⟩

/-- Where all entries are listed, those that literal segments describe are the ones
along them. -/
theorem Wildcard.reached_literals_iff {t here : Tree} {root : String}
    (h : t.resolve? root = some here) (wf : here.WellFormed) {target : Target} {all : List String}
    (listed : t.descendants root (Glob.ofText "*") target = .ok all) {segments : List String}
    (ne : segments ≠ []) (literal : ∀ s ∈ segments, Pattern.IsLiteral s) (p : String) :
    Reached here root target segments p ↔ p ∈ all ∧ LeadsAlong root segments p := by
  rw [ofText_star] at listed
  obtain ⟨qs, rfl, members, -⟩ := Tree.descendants_everyName h wf listed
  constructor
  · rintro ⟨q, hat, wanted, fits, rfl⟩
    exact ⟨List.mem_map_of_mem ((members q).2 ⟨hat, wanted⟩), q.names, (wf.of_at? hat).1,
      (fits_literals_iff literal).1 fits, rfl⟩
  · rintro ⟨inside, names, areNames, same, path⟩
    obtain ⟨q, hq, rfl⟩ := List.mem_map.1 inside
    obtain ⟨hat, wanted⟩ := (members q).1 hq
    have named : q.names = names := Tree.pathTo_injective (wf.of_at? hat).1 areNames
      q.names_ne_nil (ne_nil_of_likenesses same ne) path
    exact ⟨q, hat, wanted, (fits_literals_iff literal).2 (named ▸ same), rfl⟩

/-! ## §4 Searches -/

/-- **Looking for a literal pattern and asking for its path.** Where all entries below
the root can be listed, a search for a pattern of segments without wildcards succeeds.
It gathers the entries whose names are alike to the segments, character by character.
It finds one at most unless it finds names with İ or ı. What it finds is in the set of
all entries under the path that the segments write, unless names or segments hold
these letters. If that path is there, and names and segments hold no characters that
fold to several, then something is found. -/
theorem search_literal {t : Tree} (wf : t.WellFormed) {root : String}
    (valid : checkRoot t (.path root) = .ok root) {target : Target} {all : List String}
    (listed : t.descendants root (Glob.ofText "*") target = .ok all) {pattern : String}
    (ne : Pattern.segments pattern ≠ [])
    (literal : ∀ s ∈ Pattern.segments pattern, Pattern.IsLiteral s) :
    ∃ f, search t .wildcard (.of root pattern target) = .ok f ∧
      (f.paths.Gathers fun p => p ∈ all ∧ LeadsAlong root (Pattern.segments pattern) p) ∧
      ((∀ p ∈ f.paths.toList, HoldsBehind Text.IsPlain root p) → f.paths.size ≤ 1) ∧
      ((∀ p ∈ f.paths.toList, HoldsBehind Text.IsPlain root p) →
        HoldsIn Text.IsPlain (Pattern.segments pattern) → 1 ≤ f.paths.size →
        (PathSet.ofList all).contains (writtenPath root (Pattern.segments pattern)) = true) ∧
      (HoldsIn Text.IsSingle (Pattern.segments pattern) →
        (PathSet.ofList (all.filter fun p => HoldsBehind Text.IsSingle root p)).contains
          (writtenPath root (Pattern.segments pattern)) = true → 1 ≤ f.paths.size) := by
  obtain ⟨f, found⟩ := search_succeeds wf valid listed pattern
  obtain ⟨here, hres, -, hp⟩ := search_eq_ok found
  have wfHere := wf.of_resolve? hres
  have gathered : f.paths.Gathers fun p => p ∈ all ∧ LeadsAlong root (Pattern.segments pattern) p :=
    (Wildcard.resolve_gathers (Wildcard.isChain_collapse _) hres wfHere
      (Fallible.mapError_eq_ok.1 hp)).congr
        (Wildcard.reached_literals_iff hres wfHere listed ne literal)
  have whole : ∀ s ∈ Pattern.segments pattern, '/' ∉ s.toList :=
    fun s => Pattern.slash_not_mem_segments
  refine ⟨f, found, gathered, fun plain => ?_, fun plain plain' some => ?_, fun single there => ?_⟩
  · rw [← PathSet.card_keySet, Finset.card_le_one]
    intro key hkey key' hkey'
    obtain ⟨p, inside, rfl⟩ := PathSet.mem_keySet.1 hkey
    obtain ⟨q, inside', rfl⟩ := PathSet.mem_keySet.1 hkey'
    exact (gathered.sound p inside).2.pathKey_eq (gathered.sound q inside').2 ne
      (plain p inside) (plain q inside')
  · rw [← PathSet.card_keySet, Finset.one_le_card] at some
    obtain ⟨key, hkey⟩ := some
    obtain ⟨p, inside, -⟩ := PathSet.mem_keySet.1 hkey
    obtain ⟨hp, along⟩ := gathered.sound p inside
    rw [PathSet.contains_ofList, ← along.pathKey_eq_written ne whole (plain p inside) plain']
    exact List.mem_map_of_mem hp
  · -- The entry with this key has names with the foldings of the segments, so it is found.
    rw [PathSet.contains_ofList] at there
    obtain ⟨p, inside, key⟩ := List.mem_map.1 there
    obtain ⟨inside, behind⟩ := List.mem_filter.1 inside
    obtain ⟨names, some, areNames, rfl⟩ := Tree.names_of_listed hres wfHere listed inside
    have along := leadsAlong_of_pathKey_eq key some areNames ne whole (of_decide_eq_true behind)
      single
    have kept := gathered.complete _ ⟨inside, along⟩
    rw [← PathSet.card_keySet, Finset.one_le_card]
    exact ⟨_, List.mem_toFinset.2 kept⟩

/-- A file in a directory, both with letters beyond ASCII in their names. -/
def lettersBeyond : Tree := .ofPlaces [("/r/Bücher/ÄRGER.txt", .file), ("/r/x", .file)]

/-- Both names differ from the segments in case, and the root ends with a slash. -/
theorem search_literal_other_case :
    lettersBeyond.WellFormed ∧ checkRoot lettersBeyond (.path "/r/") = .ok "/r/" ∧
    lettersBeyond.descendants "/r/" (Glob.ofText "*") .file =
      .ok ["/r/x", "/r/Bücher/ÄRGER.txt"] ∧
    (∀ s ∈ Pattern.segments " bücher /ärger.TXT", Pattern.IsLiteral s) ∧
    writtenPath "/r/" (Pattern.segments " bücher /ärger.TXT") = "/r/bücher/ärger.TXT" ∧
    ∃ f, search lettersBeyond .wildcard (.of "/r/" " bücher /ärger.TXT" .file) = .ok f ∧
      f.paths.size = 1 ∧
      (PathSet.ofList ["/r/x", "/r/Bücher/ÄRGER.txt"]).contains "/r/bücher/ärger.TXT" = true := by
  have wf : lettersBeyond.WellFormed := by decide
  have valid : checkRoot lettersBeyond (.path "/r/") = .ok "/r/" := by decide
  have listed : lettersBeyond.descendants "/r/" (Glob.ofText "*") .file =
      .ok ["/r/x", "/r/Bücher/ÄRGER.txt"] := by decide +kernel
  have cut : Pattern.segments " bücher /ärger.TXT" = ["bücher", "ärger.TXT"] := by decide +kernel
  have literal : ∀ s ∈ Pattern.segments " bücher /ärger.TXT", Pattern.IsLiteral s := by
    rw [cut]; decide
  have written : writtenPath "/r/" (Pattern.segments " bücher /ärger.TXT") =
      "/r/bücher/ärger.TXT" := by rw [cut]; decide
  obtain ⟨f, found, gathered, unique, there, back⟩ :=
    search_literal wf valid listed (by rw [cut]; simp) literal
  have plain : ∀ p ∈ f.paths.toList, HoldsBehind Text.IsPlain "/r/" p := by
    have every : ∀ p ∈ ["/r/x", "/r/Bücher/ÄRGER.txt"], HoldsBehind Text.IsPlain "/r/" p := by
      decide +kernel
    exact fun p inside => every p (gathered.sound p inside).1
  have some : 1 ≤ f.paths.size := by
    refine back (by rw [cut]; decide +kernel) ?_
    rw [written]
    decide +kernel
  have one : f.paths.size = 1 := Nat.le_antisymm (unique plain) some
  refine ⟨wf, valid, listed, literal, written, f, found, one, ?_⟩
  rw [← written]
  exact there plain (by rw [cut]; decide +kernel) some

/-- **Where the two notions of case part.** The set of all entries has `straße` under
`strasse`, but a search for `strasse` does not find it. A search for `i` finds both `i`
and `İ`, and it finds `ı`, which the set does not have under `i`. After a root that ends
with a slash no second one is written. -/
theorem literal_patterns_told_apart :
    ((Tree.ofPlaces [("/r/straße", .file)]).descendants "/r" (Glob.ofText "*") .file =
        .ok ["/r/straße"] ∧
      (search (.ofPlaces [("/r/straße", .file)]) .wildcard (.of "/r" "strasse" .file)).toOption.map
        (fun f => f.paths.toList) = some [] ∧
      (PathSet.ofList ["/r/straße"]).contains "/r/strasse" = true) ∧
    ((Tree.ofPlaces [("/r/i", .file), ("/r/İ", .file)]).descendants "/r" (Glob.ofText "*") .file =
        .ok ["/r/i", "/r/İ"] ∧
      (search (.ofPlaces [("/r/i", .file), ("/r/İ", .file)]) .wildcard
        (.of "/r" "i" .file)).toOption.map (fun f => f.paths.toList) = some ["/r/i", "/r/İ"]) ∧
    ((Tree.ofPlaces [("/r/ı", .file)]).descendants "/r" (Glob.ofText "*") .file = .ok ["/r/ı"] ∧
      (search (.ofPlaces [("/r/ı", .file)]) .wildcard (.of "/r" "i" .file)).toOption.map
        (fun f => f.paths.toList) = some ["/r/ı"] ∧
      (PathSet.ofList ["/r/ı"]).contains "/r/i" = false) ∧
    ((Tree.ofPlaces [("/r/x", .file)]).descendants "/r/" (Glob.ofText "*") .file = .ok ["/r/x"] ∧
      (search (.ofPlaces [("/r/x", .file)]) .wildcard (.of "/r/" "x" .file)).toOption.map
        (fun f => f.paths.toList) = some ["/r/x"] ∧
      (PathSet.ofList ["/r/x"]).contains ("/r/" ++ "/" ++ "x") = false) := by
  refine ⟨⟨?_, ?_, ?_⟩, ⟨?_, ?_⟩, ⟨?_, ?_, ?_⟩, ?_, ?_, ?_⟩ <;> decide +kernel

end TreeSift
