/-
  TreeSift.Proofs.Settings.Layers — what is asked for, and where it comes from.

  The sources are asked in the order of their precedence, whatever order their layers
  came in; to ask those without a layer too makes no difference (`get?_eq`). So settings
  whose layers are the same give the same answers (`getD_congr`), and a value comes from
  above a source, from that source, or else from below it (`get?_eq_around`).

    §1 Answers  `get?_eq`, `getD_congr`
    §2 Places among the sources  `Source.above`, `Source.below`, `get?_eq_around`
-/
import TreeSift.Settings.Basic

namespace TreeSift

namespace Settings

variable {s t : Settings} {key : String} {source : Source}

/-! ## §1 Answers -/

/-- The parts of a key lead nowhere in a layer without settings. -/
theorem at?_empty (key : String) : (Value.mapping []).at? (keyPath key) = none := rfl

/-- A source without a layer gives nothing. -/
theorem from?_of_not_mem (absent : source ∉ Keyed.keys s.filled) (key : String) :
    s.from? key source = none := by
  have nothing : s.layer source = [] := by
    rw [layer, held, Keyed.get?_eq_none_iff.2 absent]
    rfl
  rw [from?, nothing, at?_empty]
  rfl

theorem findSome?_filter {α β : Type} {f : α → Option β} {p : α → Bool}
    (nothing : ∀ a, p a = false → f a = none) (as : List α) :
    (as.filter p).findSome? f = as.findSome? f := by
  induction as with
  | nil => rfl
  | cons a as ih =>
    cases h : p a with
    | true => rw [List.filter_cons_of_pos h, List.findSome?_cons, List.findSome?_cons, ih]
    | false => rw [List.filter_cons_of_neg (by simp [h]), List.findSome?_cons, nothing a h, ih]

/-- All sources may be asked in turn. -/
theorem get?_eq (s : Settings) (key : String) :
    s.get? key = Source.descending.findSome? (s.from? key) := by
  refine findSome?_filter (fun source absent => ?_) _
  exact from?_of_not_mem (by simpa using absent) key

theorem from?_congr (same : s.held source = t.held source) (key : String) :
    s.from? key source = t.from? key source := by
  rw [from?, from?, layer, layer, same]

theorem get?_congr (same : ∀ source, s.held source = t.held source) (key : String) :
    s.get? key = t.get? key := by
  rw [get?_eq, get?_eq]
  exact congrArg (Source.descending.findSome? ·) (funext fun source => from?_congr (same source) key)

/-- What is answered depends on the layers and not on the order in which they came in. -/
theorem getD_congr (same : ∀ source, s.held source = t.held source) (key : String)
    (default : Value) : s.getD key default = t.getD key default := by
  rw [getD, getD, get?_congr same]

end Settings

/-! ## §2 Places among the sources -/

/-- The sources that prevail over one, those that prevail first. -/
def Source.above (source : Source) : List Source :=
  Source.descending.filter fun other => source.rank < other.rank

/-- The sources over which one prevails, those that prevail first. -/
def Source.below (source : Source) : List Source :=
  Source.descending.filter fun other => other.rank < source.rank

theorem Source.descending_eq (source : Source) :
    Source.descending = source.above ++ source :: source.below := by
  cases source <;> decide

theorem Source.not_mem_above (source : Source) : source ∉ source.above := by
  simp [Source.above]

theorem Source.not_mem_below (source : Source) : source ∉ source.below := by
  simp [Source.below]

namespace Settings

/-- A value comes from the highest source above one that has it, else from that one,
else from below. -/
theorem get?_eq_around (s : Settings) (key : String) (source : Source) :
    s.get? key = (source.above.findSome? (s.from? key)).or
      ((s.from? key source).or (source.below.findSome? (s.from? key))) := by
  rw [get?_eq, source.descending_eq, List.findSome?_append, List.findSome?_cons]
  cases s.from? key source <;> rfl

end Settings

end TreeSift
