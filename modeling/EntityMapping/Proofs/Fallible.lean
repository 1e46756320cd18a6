/-!
# Computations that may fail

Steps of a computation in `Except` are peeled off one at a time: from a result back to the
results of its steps, and from a failure to the step that failed.

Main results:

- `bind_eq_ok`, `map_eq_ok`: what a result says about the steps before it.
- `mapM_eq_ok`, `exists_mapM_eq_ok_iff`, `map_eq_map_filterMap_toOption`: the results of a list
  of computations.
- `fails_bind_of_iff`, `fails_map`: when a sequence of steps fails.
-/

namespace EntityMapping

variable {ε α β : Type}

/-- A value is passed on. -/
theorem ok_bind (a : α) (f : α → Except ε β) : (.ok a >>= f) = f a := rfl

/-- Two steps succeed exactly if the first does and the second does with its value. -/
theorem bind_eq_ok {x : Except ε α} {f : α → Except ε β} {b : β} :
    x >>= f = .ok b ↔ ∃ a, x = .ok a ∧ f a = .ok b := by
  cases x with
  | error e =>
    constructor
    · intro h
      cases h
    · rintro ⟨a, ha, _⟩
      cases ha
  | ok a =>
    constructor
    · intro h
      exact ⟨a, rfl, h⟩
    · rintro ⟨a', ha, hb⟩
      cases ha
      exact hb

/-- A mapped computation succeeds exactly if the computation does, with the image of its value. -/
theorem map_eq_ok {x : Except ε α} {f : α → β} {b : β} :
    x.map f = .ok b ↔ ∃ a, x = .ok a ∧ f a = b := by
  cases x <;> simp [Except.map]

/-- A computation gives a value exactly if it succeeds with it. -/
theorem toOption_eq_some_iff {x : Except ε α} {a : α} : x.toOption = some a ↔ x = .ok a := by
  cases x <;> simp [Except.toOption]

/-- Results are collected in order, if each computation has one. -/
theorem mapM_eq_ok {f : α → Except ε β} {as : List α} {bs : List β} :
    as.mapM f = .ok bs ↔ as.map f = bs.map .ok := by
  induction as generalizing bs with
  | nil => cases bs <;> simp [pure, Except.pure]
  | cons a rest ih =>
    rw [List.mapM_cons, bind_eq_ok, List.map_cons]
    constructor
    · rintro ⟨b, hb, hrest⟩
      obtain ⟨bs', hbs, heq⟩ := bind_eq_ok.mp hrest
      cases heq
      rw [hb, ih.mp hbs, List.map_cons]
    · intro h
      cases bs with
      | nil => cases h
      | cons b bs =>
        obtain ⟨hb, hbs⟩ := List.cons.inj h
        exact ⟨b, hb, bind_eq_ok.mpr ⟨bs, ih.mpr hbs, rfl⟩⟩

/-- A computation for each item succeeds exactly if it does for every single one. -/
theorem exists_mapM_eq_ok_iff {f : α → Except ε β} {as : List α} :
    (∃ bs, as.mapM f = .ok bs) ↔ ∀ a ∈ as, ∃ b, f a = .ok b := by
  induction as with
  | nil => simp [pure, Except.pure]
  | cons a rest ih =>
    rw [List.forall_mem_cons, ← ih, List.mapM_cons]
    constructor
    · rintro ⟨bs, h⟩
      obtain ⟨b, hb, hrest⟩ := bind_eq_ok.mp h
      obtain ⟨bs', hbs, _⟩ := bind_eq_ok.mp hrest
      exact ⟨⟨b, hb⟩, bs', hbs⟩
    · rintro ⟨⟨b, hb⟩, bs, hbs⟩
      exact ⟨b :: bs, bind_eq_ok.mpr ⟨b, hb, bind_eq_ok.mpr ⟨bs, hbs, rfl⟩⟩⟩

/-- If every computation of a list has a result, nothing is lost by keeping only results. -/
theorem map_eq_map_filterMap_toOption {f : α → Except ε β} {as : List α}
    (h : ∀ a ∈ as, ∃ b, f a = .ok b) :
    as.map f = (as.filterMap fun a => (f a).toOption).map .ok := by
  induction as with
  | nil => rfl
  | cons a rest ih =>
    obtain ⟨⟨b, hb⟩, hrest⟩ := List.forall_mem_cons.mp h
    simp [hb, Except.toOption, ih hrest]

/-! ## Failures -/

/-- The computation fails. -/
def Fails (x : Except ε α) : Prop := ∃ e, x = .error e

@[simp]
theorem not_fails_ok (a : α) : ¬ Fails (.ok a : Except ε α) := by
  rintro ⟨e, he⟩
  cases he

@[simp]
theorem not_fails_pure (a : α) : ¬ Fails (pure a : Except ε α) := not_fails_ok a

@[simp]
theorem fails_error (e : ε) : Fails (.error e : Except ε α) := ⟨e, rfl⟩

@[simp]
theorem fails_map {x : Except ε α} {f : α → β} : Fails (x.map f) ↔ Fails x := by
  cases x <;> simp [Except.map]

/-- If the later steps fail under a condition that does not depend on the first result, the
sequence fails with its first step or under that condition. -/
theorem fails_bind_of_iff {x : Except ε α} {f : α → Except ε β} {P : Prop}
    (later : ∀ a, Fails (f a) ↔ P) : Fails (x >>= f) ↔ Fails x ∨ P := by
  cases x with
  | error e => exact ⟨fun _ => .inl (fails_error e), fun _ => fails_error e⟩
  | ok a => exact (later a).trans (or_iff_right (not_fails_ok a)).symm

/-- A sequence whose last step only returns fails with what comes before it. -/
@[simp]
theorem fails_bind_pure {x : Except ε α} {f : α → β} :
    Fails (x >>= fun a => pure (f a)) ↔ Fails x := by
  rw [fails_bind_of_iff fun a => iff_false_intro (not_fails_pure (f a)), or_false]

/-- What does not fail succeeds with some value. -/
theorem not_fails_iff {x : Except ε α} : ¬ Fails x ↔ ∃ a, x = .ok a := by
  cases x <;> simp

/-- A computation is well exactly if it succeeds with some value. -/
theorem isOk_iff {x : Except ε α} : x.isOk = true ↔ ∃ a, x = .ok a := by
  cases x <;> simp [Except.isOk, Except.toBool]

end EntityMapping
