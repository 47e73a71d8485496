/-
  TreeSift.Proofs.Fallible — results that may be failures, in sequence.

  A sequence fails with the failure of its first part, or goes on with the value
  of that part. These are the laws by which all searches are taken apart.
-/

namespace TreeSift.Fallible

variable {α β ε : Type}

@[simp] theorem ok_bind (a : α) (f : α → Except ε β) : (Except.ok a >>= f) = f a := rfl

@[simp] theorem error_bind (e : ε) (f : α → Except ε β) :
    (Except.error e >>= f) = Except.error e := rfl

@[simp] theorem map_ok (f : α → β) (a : α) : f <$> (Except.ok a : Except ε α) = .ok (f a) := rfl

@[simp] theorem map_error (f : α → β) (e : ε) :
    f <$> (Except.error e : Except ε α) = .error e := rfl

theorem pure_eq_ok (a : α) : (pure a : Except ε α) = .ok a := rfl

/-- What succeeds has a value, whatever stands in for one otherwise. -/
theorem eq_ok_of_isOk {x : Except ε α} (h : x.isOk = true) (default : α) :
    x = .ok (x.toOption.getD default) := by
  cases x with
  | error e => cases h
  | ok a => rfl

/-- A sequence succeeds exactly if both parts do. -/
theorem bind_eq_ok {x : Except ε α} {f : α → Except ε β} {b : β} :
    x >>= f = .ok b ↔ ∃ a, x = .ok a ∧ f a = .ok b := by
  cases x <;> simp

/-- What is made of a value is there exactly if the value is. -/
theorem map_eq_ok {x : Except ε α} {f : α → β} {b : β} :
    f <$> x = .ok b ↔ ∃ a, x = .ok a ∧ f a = b := by
  cases x <;> simp

/-- A sequence fails if a part of it does, the second one after the first succeeded. -/
theorem bind_eq_error {x : Except ε α} {f : α → Except ε β} {e : ε} :
    x >>= f = .error e ↔ x = .error e ∨ ∃ a, x = .ok a ∧ f a = .error e := by
  cases x <;> simp

/-- What is made of a value is missing exactly if the value is. -/
theorem map_eq_error {x : Except ε α} {f : α → β} {e : ε} :
    f <$> x = .error e ↔ x = .error e := by
  cases x <;> simp

@[simp] theorem mapError_ok {δ : Type} (f : ε → δ) (a : α) :
    (Except.ok a : Except ε α).mapError f = .ok a := rfl

@[simp] theorem mapError_error {δ : Type} (f : ε → δ) (e : ε) :
    (Except.error e : Except ε α).mapError f = .error (f e) := rfl

/-- Giving failures another form does not make a success of them. -/
theorem mapError_eq_ok {δ : Type} {f : ε → δ} {x : Except ε α} {a : α} :
    x.mapError f = .ok a ↔ x = .ok a := by
  cases x <;> simp

theorem mapError_eq_error {δ : Type} {f : ε → δ} {x : Except ε α} {d : δ} :
    x.mapError f = .error d ↔ ∃ e, x = .error e ∧ f e = d := by
  cases x <;> simp

/-- A list cannot be worked off only if one of its parts cannot. -/
theorem exists_of_mapM_eq_error {f : α → Except ε β} {as : List α} {e : ε}
    (h : as.mapM f = .error e) : ∃ a ∈ as, f a = .error e := by
  induction as with
  | nil => cases h
  | cons a rest ih =>
    rw [List.mapM_cons] at h
    rcases bind_eq_error.1 h with first | ⟨b, -, h⟩
    · exact ⟨a, List.mem_cons_self, first⟩
    · rcases bind_eq_error.1 h with later | ⟨bs, -, h⟩
      · obtain ⟨c, hc, given⟩ := ih later
        exact ⟨c, List.mem_cons_of_mem _ hc, given⟩
      · cases h

/-- What a list has been worked off to comes from its parts. -/
theorem exists_of_mem_mapM {f : α → Except ε β} {as : List α} {bs : List β}
    (h : as.mapM f = .ok bs) {b : β} (hb : b ∈ bs) : ∃ a ∈ as, f a = .ok b := by
  induction as generalizing bs with
  | nil =>
    cases h
    cases hb
  | cons a rest ih =>
    rw [List.mapM_cons] at h
    obtain ⟨c, first, h⟩ := bind_eq_ok.1 h
    obtain ⟨cs, later, h⟩ := bind_eq_ok.1 h
    cases h
    rcases List.mem_cons.1 hb with rfl | hb
    · exact ⟨a, List.mem_cons_self, first⟩
    · obtain ⟨d, hd, given⟩ := ih later hb
      exact ⟨d, List.mem_cons_of_mem _ hd, given⟩

/-- Running over two lists one after the other is running over both in turn. -/
theorem flatMapM_append (f : α → Except ε (List β)) (as bs : List α) :
    (as ++ bs).flatMapM f = do
      let x ← as.flatMapM f
      return x ++ (← bs.flatMapM f) := by
  induction as with
  | nil => simp only [List.nil_append, List.flatMapM_nil, pure_bind, bind_pure]
  | cons a as ih =>
    simp only [List.cons_append, List.flatMapM_cons, ih, bind_assoc, pure_bind, List.append_assoc]

/-- Running over a list is running over its image if both say the same of each value. -/
theorem flatMapM_map {γ : Type} {as : List α} (h : α → γ) {f : α → Except ε (List β)}
    {g : γ → Except ε (List β)} (same : ∀ a ∈ as, f a = g (h a)) :
    as.flatMapM f = (as.map h).flatMapM g := by
  induction as with
  | nil => rfl
  | cons a as ih =>
    rw [List.map_cons, List.flatMapM_cons, List.flatMapM_cons, same a List.mem_cons_self,
      ih fun b hb => same b (List.mem_cons_of_mem _ hb)]

end TreeSift.Fallible
