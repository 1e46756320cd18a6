import EntityMapping.Proofs.Run.Failure
import EntityMapping.Proofs.Run.Sharing
import EntityMapping.Proofs.Writing.Update

/-!
# Running a generator again

After a successful run every id that the repository can have is taken, and it stays taken
whatever else happens to the registry.  A later run for the same repository and entity finds
nothing left to make, so it does not even notice faults that would have stopped the first: a
key that its dialect does not serve, a condition with the wrong number of operands, an
embedded type that is not known.

Main results:

- `Registry.extends_useAll`: whatever happens to a registry, its entries stay.
- `Generator.taken_of_run`: after a run every id that applies is taken.
- `Generator.attempt_again`: a later run registers nothing and succeeds.
-/

namespace EntityMapping

/-! ## What happens to a registry -/

/-- What happens to a shared registry: a statement is registered, or a generator runs on it,
with or without success. -/
inductive Use where
  | register (s : Statement)
  | run (g : Generator)

namespace Registry

/-- The registry after something happened to it. -/
def use (r : Registry) : Use → Registry
  | .register s => (r.register s).2
  | .run g => (g.attempt r).2

/-- The registry after several things happened to it. -/
def useAll (r : Registry) (uses : List Use) : Registry := uses.foldl use r

/-- Whatever happens to a registry, its entries stay. -/
theorem extends_use (r : Registry) (u : Use) : r.Extends (r.use u) := by
  cases u with
  | register s => exact extends_register r s
  | run g =>
    rw [use, Generator.attempt_eq]
    cases g.buildAll r StatementName.all with
    | error e => exact Extends.refl r
    | ok built => exact extends_registerAll r built

/-- However it is used, a registry only grows. -/
theorem extends_useAll (r : Registry) (uses : List Use) : r.Extends (r.useAll uses) := by
  induction uses generalizing r with
  | nil => exact Extends.refl r
  | cons u rest ih => exact (extends_use r u).trans (ih (r.use u))

end Registry

namespace Generator

variable {g g' : Generator} {r after : Registry} {o : Outcome}

/-! ## Ids that a repository can have -/

/-- A name applies if the entity has a key where one is needed, and the repository declares
example queries where they are served. -/
def Applies (g : Generator) (name : StatementName) : Prop :=
  (name ∈ StatementName.keyed → g.entity.keyType?.isSome = true) ∧
    (name ∈ StatementName.exemplary → g.repository.exampleQuery = true)

/-- Which statements apply depends on the repository and the entity. -/
theorem applies_congr (hrepository : g'.repository = g.repository)
    (hentity : g'.entity = g.entity) {name : StatementName} :
    g'.Applies name ↔ g.Applies name := by
  unfold Applies
  rw [hrepository, hentity]

/-- A statement that is stopped by its faults is one that applies. -/
theorem applies_of_stopped {name : StatementName} (h : g.Stopped name) : g.Applies name := by
  constructor
  · intro hkeyed
    exact g.entity.keyType?_isSome.mpr (key_ne_none_of_stopped h hkeyed)
  · intro hexemplary
    exact absurd h (not_stopped_of_exemplary hexemplary)

/-- After a successful run every id that applies is taken. -/
theorem taken_of_run (hrun : g.run r = .ok (o, after)) {name : StatementName}
    (happlies : g.Applies name) : ∃ s, after.get? (g.place name) = some s := by
  cases hold : r.get? (g.place name) with
  | some s => exact ⟨s, (get?_after_run hrun).mpr (.inl hold)⟩
  | none =>
    rcases build_spec (get?_of_run hrun hold) with ⟨_, s, hs, _⟩ | ⟨hskips, _⟩
    · exact ⟨s, hs⟩
    · exact absurd ⟨hold, happlies⟩ hskips

/-- A run that succeeded had the example metadata that it needs. -/
theorem not_lacksExample_of_run (hrun : g.run r = .ok (o, after)) : ¬ g.LacksExample := by
  intro hlacks
  have hfails : Fails (g.run r) := (fails_run_iff g r).mpr (.inr (.inr (.inr hlacks)))
  rw [hrun] at hfails
  exact not_fails_ok _ hfails

/-! ## Later runs -/

/-- Where every id that applies is taken, no step makes a statement, and none fails for another
reason than missing example metadata. -/
theorem build_eq_none_of_all_taken (hexample : ¬ g.LacksExample)
    (htaken : ∀ name, g.Applies name → r.get? (g.place name) ≠ none) (name : StatementName) :
    g.build r name = .ok none := by
  have hsucceeds : ¬ Fails (g.build r name) := by
    rw [fails_build_iff]
    rintro (⟨_, hlacks⟩ | ⟨hfree, hstopped⟩)
    · exact hexample hlacks
    · exact htaken name (applies_of_stopped hstopped) hfree
  rcases not_fails_iff.mp hsucceeds with ⟨built?, hbuild⟩
  rcases build_spec hbuild with ⟨hgenerates, _⟩ | ⟨_, rfl⟩
  · exact absurd hgenerates.1 (htaken name hgenerates.2)
  · exact hbuild

/-- If every statement is left out, none is built. -/
theorem buildAll_eq_nil {names : List StatementName}
    (h : ∀ name, g.build r name = .ok none) : g.buildAll r names = .ok [] := by
  induction names with
  | nil => rfl
  | cons name rest ih => simp [buildAll, h name, ih, bind, Except.bind, pure, Except.pure]

/-- After a successful run, and whatever has happened to the registry since, another run for the
same repository and entity succeeds, makes no statement and leaves the registry alone.  The
catalog, the dialect and the default sequence may be others. -/
theorem attempt_again (hfirst : g.attempt r = (.ok o, after))
    (hrepository : g'.repository = g.repository) (hentity : g'.entity = g.entity)
    (uses : List Use) :
    g'.attempt (after.useAll uses) =
      (.ok ⟨g.repository.namespaceName, []⟩, after.useAll uses) := by
  have hrun : g.run r = .ok (o, after) := by
    rw [attempt, runInPlace_eq] at hfirst
    cases hran : g.run r with
    | error e =>
      rw [hran] at hfirst
      cases hfirst
    | ok result =>
      rw [hran] at hfirst
      cases hfirst
      rfl
  have hexample : ¬ g'.LacksExample := by
    unfold LacksExample
    rw [hrepository, hentity]
    exact not_lacksExample_of_run hrun
  -- An id that applies was taken by the first run, and stays taken.
  have htaken : ∀ name, g'.Applies name → (after.useAll uses).get? (g'.place name) ≠ none := by
    intro name happlies hfree
    rcases taken_of_run hrun ((applies_congr hrepository hentity).mp happlies) with ⟨s, hs⟩
    have hplace : g'.place name = g.place name := by rw [place, hrepository, place]
    rw [hplace, Registry.extends_useAll after uses _ _ hs] at hfree
    cases hfree
  have hnone : g'.buildAll (after.useAll uses) StatementName.all = .ok [] :=
    buildAll_eq_nil (build_eq_none_of_all_taken hexample htaken)
  rw [attempt_eq, hnone, hrepository]
  rfl

/-- Customers whose key comes from a sequence, on a dialect without sequences. -/
def customersOnMysql : Generator :=
  { customers with dialect := .mysql, defaultSequence := "other_seq" }

/-- On an empty registry the customers of a dialect without sequences are refused; after a run
for another dialect and some use of the registry their run has nothing to do. -/
theorem attempt_again_customers : Fails (customersOnMysql.run .empty) ∧
    ∃ o after, customers.attempt .empty = (.ok o, after) ∧
      let later := after.useAll [.register handWritten, .run pairs, .run customersOnMysql]
      customersOnMysql.attempt later = (.ok ⟨"app::Customers", []⟩, later) := by
  constructor
  · exact (fails_run_iff _ _).mpr (.inr (.inl
      ⟨⟨_, _, rfl, rfl, rfl⟩, .insert, by decide, rfl⟩))
  · obtain ⟨built, hbuilt⟩ := isOk_iff.mp
      (by decide : (customers.buildAll .empty StatementName.all).isOk = true)
    have hfirst := attempt_eq customers .empty
    rw [hbuilt] at hfirst
    have hrepository : customersOnMysql.repository = customers.repository := rfl
    exact ⟨_, _, hfirst, attempt_again hfirst hrepository rfl _⟩

end Generator

end EntityMapping
