/-
  TreeSift.Proofs.Journal.Fields — the fields that a record shows.

  A record merges the contexts that have been pushed, the outermost one first, with the
  context of its message. What comes of this can be said without the merging
  (`Context.IsMerge`): every key of any context is there once, the keys stand in the order
  in which they first occur from the outermost context inwards, and each has the value that
  the innermost context with this key gives it. Position and value come from opposite ends
  of the list of contexts, so they are followed through the merging one by one
  (`isMerge_merge`). From when it is made on, whatever happens to its journal (`Since`), a
  logger has a level, and this decides whether there is a record (`record_merges_contexts`).

    §1 Contexts  `Context.Prevails`, `Context.IsMerge`, `isMerge_merge`
    §2 Texts     `Record.text_eq`
    §3 Loggers   `Journal.Since`, `Since.hasLevel`
    §4 Records   `record_merges_contexts`
-/
import TreeSift.Proofs.Journal.Merging
import TreeSift.Proofs.Journal.Writing

namespace TreeSift

/-! ## §1 Contexts -/

namespace Context

/-- The innermost of some contexts that has a key gives it this value. Of several fields
with the key in this context the last one counts. -/
def Prevails (contexts : List Context) (k : String) (v : FieldValue) : Prop :=
  ∃ outer c inner, contexts = outer ++ c :: inner ∧ Keyed.get? k c.reverse = some v ∧
    ∀ d ∈ inner, k ∉ Keyed.keys d

/-- The keys of some contexts, the outermost context first, as often as they occur. -/
def occurrences (contexts : List Context) : List String := contexts.flatMap Keyed.keys

/-- Fields in which each key of some contexts stands once, where it first occurs from the
outermost context inwards, with the value of the innermost context that has it. -/
structure IsMerge (contexts : List Context) (fields : Context) : Prop where
  once : (Keyed.keys fields).Nodup
  all : ∀ k, k ∈ Keyed.keys fields ↔ ∃ c ∈ contexts, k ∈ Keyed.keys c
  ordered : (Keyed.keys fields).Pairwise fun k l =>
    (occurrences contexts).idxOf k < (occurrences contexts).idxOf l
  innermost : ∀ k v, (k, v) ∈ fields → Prevails contexts k v

variable {contexts : List Context} {k : String} {v : FieldValue}

/-- What prevails in the outer contexts does so as long as no inner one has the key. -/
theorem Prevails.concat {outer : List Context} (h : Prevails outer k v) {inner : Context}
    (absent : k ∉ Keyed.keys inner) : Prevails (outer ++ [inner]) k v := by
  obtain ⟨before, c, after, rfl, given, unset⟩ := h
  refine ⟨before, c, after ++ [inner], by rw [List.append_assoc, List.cons_append], given, ?_⟩
  intro d hd
  rcases List.mem_append.1 hd with old | new
  · exact unset d old
  · exact List.mem_singleton.1 new ▸ absent

theorem keys_reverse (c : Context) : Keyed.keys c.reverse = (Keyed.keys c).reverse :=
  List.map_reverse

/-- What a key has in merged contexts is what prevails. -/
theorem prevails_of_get?_merge (there : Keyed.get? k (merge contexts) = some v) :
    Prevails contexts k v := by
  -- The induction takes off the innermost context, which is the first one to be asked.
  induction contexts using List.reverseRecOn with
  | nil => exact absurd there (by simp [merge, Keyed.get?])
  | append_singleton outer inner ih =>
    rw [get?_merge_concat] at there
    cases given : Keyed.get? k inner.reverse with
    | some w =>
      rw [given, Option.some_or] at there
      exact ⟨outer, inner, [], rfl, given.trans there, by simp⟩
    | none =>
      rw [given, Option.none_or] at there
      have absent := Keyed.get?_eq_none_iff.1 given
      rw [keys_reverse, List.mem_reverse] at absent
      exact (ih there).concat absent

theorem keys_flatten (contexts : List Context) :
    Keyed.keys contexts.flatten = occurrences contexts := by
  rw [Keyed.keys, List.map_flatten, occurrences, List.flatMap]
  rfl

theorem isMerge_merge (contexts : List Context) : IsMerge contexts (merge contexts) where
  once := nodup_keys_merge contexts
  all k := by
    have none : k ∉ Keyed.keys ([] : Context) := List.not_mem_nil
    rw [merge_eq_update, Keyed.mem_keys_update, keys_flatten, occurrences, List.mem_flatMap]
    exact or_iff_right none
  ordered := by
    rw [merge_eq_update, ← keys_flatten]
    exact Keyed.pairwise_keys_update _
  innermost k v mem := prevails_of_get?_merge (Keyed.get?_of_mem (nodup_keys_merge contexts) mem)

end Context

/-! ## §2 Texts -/

/-- A record shows its message and, if it has fields, these after a bar. -/
theorem Record.text_eq (r : Record) :
    r.text = r.message ++ if r.context = [] then "" else
      " | " ++ " ".intercalate (r.context.map fun f => f.1 ++ "=" ++ f.2.shown) := by
  rw [Record.text, Context.render]
  cases r.context with
  | nil => exact (String.append_empty).symm
  | cons f rest => exact String.append_assoc ..

/-! ## §3 Loggers -/

namespace Journal

/-- What becomes of a journal: loggers are asked for something, and contexts are pushed and
dropped. -/
inductive Since (j : Journal) : Journal → Prop
  | now : Since j j
  | asked {k : Journal} (before : Since j k) (step : Step) : Since j (step.carryOut k)
  | pushed {k : Journal} (before : Since j k) (c : Context) : Since j (k.push c)
  | dropped {k : Journal} (before : Since j k) : Since j k.pop

/-- A name keeps having a level. -/
theorem Since.hasLevel {j k : Journal} {name : String} (since : Since j k)
    (h : j.HasLevel name) : k.HasLevel name := by
  induction since with
  | now => exact h
  | asked before step ih => exact step.hasLevel_carryOut ih
  | pushed before c ih => exact ih.of_channels_eq rfl
  | dropped before ih => exact ih.of_channels_eq rfl

/-! ## §4 Records -/

/-- **A record shows each key once, where it first occurs, with the innermost value.** Let a
logger be made, and then loggers be asked for anything and contexts be pushed and dropped in
any way. Its name has a level then. Nothing is written below this level. At the level and
above it one record goes to all sinks of the name. Its fields merge the contexts that are
pushed, whatever keys they share, with the context of the call, and its text is the message
and, if there are fields, a bar with the pairs of keys and values after it. -/
theorem record_merges_contexts (first : Journal) (name : String) (initial : Level)
    (sinks : List Sink) {j : Journal} (since : Since (first.create name initial sinks).2 j) :
    ∃ c, j.channel? name = some c ∧
      ∀ (level : Level) (message : String) (context : Context) (traced : Bool),
        (level.number < c.level.number → j.write name level message context traced = j) ∧
        (c.level.number ≤ level.number → ∃ r : Record,
          j.write name level message context traced =
            { j with written := j.written ++ c.sinks.map fun sink => (sink, r) } ∧
          r.level = level ∧ r.name = channelName name ∧ r.message = message ∧
          r.traced = traced ∧ Context.IsMerge (j.frames ++ [context]) r.context ∧
          r.text = message ++ if r.context = [] then "" else
            " | " ++ " ".intercalate (r.context.map fun f => f.1 ++ "=" ++ f.2.shown)) := by
  obtain ⟨c, hc⟩ := since.hasLevel (hasLevel_create first name initial sinks)
  refine ⟨c, hc, ?_⟩
  intro level message context traced
  constructor
  · intro below
    exact write_of_lt hc below message context traced
  · intro enough
    have merged : Context.IsMerge (j.frames ++ [context]) (Context.merge (j.frames ++ [context])) :=
      Context.isMerge_merge _
    exact ⟨_, write_of_le hc enough message context traced, rfl, rfl, rfl, rfl, merged,
      Record.text_eq _⟩

/-- A journal with a logger and two contexts that share a key. -/
def twoContexts : Journal :=
  ((empty.create "w" .info [.kept, .console]).2.push
    [("root", .text "/a"), ("rule", .text "x")]).push [("matches", .number 1), ("root", .text "/b")]

/-- The root stands first with the value of the inner context, and the rule stands where the
outer one has it with the value of the call. -/
theorem record_in_two_contexts :
    Since (empty.create "w" .info [.kept, .console]).2 twoContexts ∧
    twoContexts.write "w" .debug "m" [("rule", .text "y")] false = twoContexts ∧
    ∃ r : Record,
      (twoContexts.write "w" .error "m" [("rule", .text "y"), ("n", .nothing)] false).written =
        [(.kept, r), (.console, r)] ∧
      Context.IsMerge [[("root", .text "/a"), ("rule", .text "x")],
        [("matches", .number 1), ("root", .text "/b")],
        [("rule", .text "y"), ("n", .nothing)]] r.context ∧
      r.text = "m | root=/b rule=y matches=1 n=None" := by
  have since : Since (empty.create "w" .info [.kept, .console]).2 twoContexts :=
    (Since.now.pushed _).pushed _
  obtain ⟨c, hc, records⟩ := record_merges_contexts empty "w" .info [.kept, .console] since
  obtain rfl : ⟨.info, [.kept, .console]⟩ = c := Option.some.inj hc
  obtain ⟨r, written, -, -, -, -, merged, -⟩ :=
    (records .error "m" [("rule", .text "y"), ("n", .nothing)] false).2 (by decide)
  have texts : (twoContexts.write "w" .error "m" [("rule", .text "y"), ("n", .nothing)]
      false).written.map (fun entry => entry.2.text) =
        ["m | root=/b rule=y matches=1 n=None", "m | root=/b rule=y matches=1 n=None"] := by
    decide +kernel
  refine ⟨since, (records .debug "m" _ false).1 (by decide), r, by rw [written]; rfl, merged, ?_⟩
  rw [written] at texts
  exact (List.cons.inj texts).1

end Journal

end TreeSift
