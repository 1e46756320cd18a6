import EntityMapping.Generation.Run
import EntityMapping.Proofs.Fallible

/-!
# Building the statements of a repository

Which statements a generator builds from a registry, and where they belong.  Every function
that makes a statement puts it under the id of its own name, so the check whether an id is
taken and the registration of the statement speak of the same key.

Main results:

- `Generator.make_key`: the statement of a name belongs under the id of that name.
- `Generator.build_spec`: a successful step gives a statement exactly for the names that are
  generated.
- `Generator.buildAll_keys`: the statements built are those of the generated names, in order.
- `Generator.make_of_mem_buildAll`: each of them is what is made for its name.
-/

namespace EntityMapping

namespace StatementName

/-- The statements that address rows by their key. -/
def keyed : List StatementName :=
  [updateSelectiveById, updateSelective, updateById, update, deleteById, deleteByIds, getById]

/-- The statements that serve example queries. -/
def exemplary : List StatementName := [exampleWhereClause, findByExample]

/-- The statements that need a key are those of the list. -/
theorem needsKey_iff (name : StatementName) : name.needsKey = true ↔ name ∈ keyed := by
  cases name <;> decide

/-- The statements that serve example queries are those of the list. -/
theorem needsExample_iff (name : StatementName) : name.needsExample = true ↔ name ∈ exemplary := by
  cases name <;> decide

/-- No statement both serves example queries and addresses rows by their key. -/
theorem needsKey_of_needsExample {name : StatementName} (h : name.needsExample = true) :
    name.needsKey = false := by
  cases name <;> simp_all [needsExample, needsKey]

end StatementName

namespace Generator

variable {g : Generator} {r : Registry} {s : Statement}

/-- The key under which the statement of a name is registered. -/
def place (g : Generator) (name : StatementName) : StatementKey :=
  ⟨g.repository.namespaceName, name.id⟩

/-- Statements of different names have different places. -/
theorem place_injective {a b : StatementName} (h : g.place a = g.place b) : a = b :=
  StatementName.id_injective (congrArg StatementKey.id h)

@[simp]
theorem statement_key (kind : StatementKind) (name : StatementName) (body : Template) :
    (g.statement kind name body).key = g.place name := rfl

/-! ## Statements belong under the id of their name -/

/-- A statement that is made from what was looked up has its key whatever was found. -/
theorem key_of_made {α : Type} {x : Except MappingError α} {f : α → Statement} {k : StatementKey}
    (h : (do let a ← x; return f a) = .ok s) (hf : ∀ a, (f a).key = k) : s.key = k := by
  obtain ⟨a, _, h⟩ := bind_eq_ok.mp h
  cases h
  exact hf a

/-- An insertion has its place, selective or not. -/
theorem insertStatement_key {selective : Bool} (h : g.insertStatement selective = .ok s) :
    s.key = g.place (if selective then .insertSelective else .insert) := by
  obtain ⟨⟨select, key?⟩, _, h⟩ := bind_eq_ok.mp h
  obtain ⟨slots, _, h⟩ := bind_eq_ok.mp h
  cases h
  rfl

/-- An update has the place of its variant. -/
theorem updateStatement_key {selective byId : Bool}
    (h : g.updateStatement selective byId = .ok s) :
    s.key = g.place (updateName selective byId) := by
  obtain ⟨condition, _, h⟩ := bind_eq_ok.mp h
  obtain ⟨slots, _, h⟩ := bind_eq_ok.mp h
  cases h
  rfl

/-- The statement of a name belongs under the id of that name. -/
theorem make_key {companion : String} {name : StatementName}
    (h : g.make companion name = .ok s) : s.key = g.place name := by
  cases name with
  | resultMap => exact key_of_made h fun _ => rfl
  | baseColumnList => exact key_of_made h fun _ => rfl
  | insertSelective => exact insertStatement_key h
  | insert => exact insertStatement_key h
  | updateSelectiveById => exact updateStatement_key h
  | updateSelective => exact updateStatement_key h
  | updateById => exact updateStatement_key h
  | update => exact updateStatement_key h
  | deleteById => exact key_of_made h fun _ => rfl
  | deleteByIds => exact key_of_made h fun _ => rfl
  | getById => exact key_of_made h fun _ => rfl
  | findByPager => exact key_of_made h fun _ => rfl
  | find => exact key_of_made h fun _ => rfl
  | count => exact key_of_made h fun _ => rfl
  | deleteAll => cases h; rfl
  | countAll => cases h; rfl
  | exampleWhereClause => cases h; rfl
  | findByExample => cases h; rfl

/-! ## Which statements are built -/

/-- A statement is generated if its id is free, the entity has a key where one is needed, and
the repository declares example queries where they are served. -/
def Generates (g : Generator) (r : Registry) (name : StatementName) : Prop :=
  r.get? (g.place name) = none ∧
    (name ∈ StatementName.keyed → g.entity.keyType?.isSome = true) ∧
      (name ∈ StatementName.exemplary → g.repository.exampleQuery = true)

instance (g : Generator) (r : Registry) (name : StatementName) : Decidable (g.Generates r name) :=
  inferInstanceAs (Decidable (_ ∧ _ ∧ _))

/-- A name is not taken exactly if nothing is registered in its place. -/
theorem taken_eq_false_iff {name : StatementName} :
    g.taken r name = false ↔ r.get? (g.place name) = none := by
  exact SortedMap.contains_eq_false_iff ..

/-- A statement is left out if its place is taken. -/
theorem not_generates_of_taken {name : StatementName} (h : g.taken r name = true) :
    ¬ g.Generates r name := by
  intro hgenerates
  rw [taken_eq_false_iff.mpr hgenerates.1] at h
  cases h

/-- There is no companion exactly if the repository has no example queries. -/
theorem companion?_eq_none_iff {found? : Option String} (h : g.companion? = .ok found?) :
    found? = none ↔ g.repository.exampleQuery = false := by
  unfold Generator.companion? at h
  split at h
  · next hquery =>
    cases h
    simpa using hquery
  · next hquery =>
    split at h
    · cases h
    · split at h
      · cases h
        simpa using hquery
      · cases h

/-- A successful step for an example query: nothing without example queries or for a taken
id, and otherwise the statement of the name. -/
theorem build_exemplary {name : StatementName} {built? : Option Statement}
    (hexample : name.needsExample = true) (h : g.build r name = .ok built?) :
    (g.Generates r name ∧ ∃ s, built? = some s ∧ s.key = g.place name) ∨
      (¬ g.Generates r name ∧ built? = none) := by
  have hkeyed : name ∉ StatementName.keyed := by
    rw [← StatementName.needsKey_iff, StatementName.needsKey_of_needsExample hexample]
    decide
  have hexemplary : name ∈ StatementName.exemplary :=
    (StatementName.needsExample_iff name).mp hexample
  rw [build, if_pos hexample] at h
  obtain ⟨found?, hfound, h⟩ := bind_eq_ok.mp h
  cases found? with
  | none =>
    cases h
    right
    have hquery := (companion?_eq_none_iff hfound).mp rfl
    refine ⟨fun hgenerates => ?_, rfl⟩
    rw [hgenerates.2.2 hexemplary] at hquery
    cases hquery
  | some companion =>
    cases htaken : g.taken r name with
    | true =>
      simp only [htaken, if_true] at h
      cases h
      exact .inr ⟨not_generates_of_taken htaken, rfl⟩
    | false =>
      simp only [htaken, Bool.false_eq_true, if_false] at h
      obtain ⟨s, hmake, rfl⟩ := map_eq_ok.mp h
      left
      refine ⟨⟨taken_eq_false_iff.mp htaken, fun hk => absurd hk hkeyed, fun _ => ?_⟩,
        s, rfl, make_key hmake⟩
      cases hquery : g.repository.exampleQuery with
      | true => rfl
      | false =>
        have := (companion?_eq_none_iff hfound).mpr hquery
        cases this

/-- A successful step for another statement: nothing for a taken id or without a key that is
needed, and otherwise the statement of the name. -/
theorem build_ordinary {name : StatementName} {built? : Option Statement}
    (hexample : name.needsExample = false) (h : g.build r name = .ok built?) :
    (g.Generates r name ∧ ∃ s, built? = some s ∧ s.key = g.place name) ∨
      (¬ g.Generates r name ∧ built? = none) := by
  have hexemplary : name ∉ StatementName.exemplary := by
    rw [← StatementName.needsExample_iff, hexample]
    decide
  simp only [build, hexample, Bool.false_eq_true, if_false] at h
  cases htaken : g.taken r name with
  | true =>
    simp only [htaken, if_true] at h
    cases h
    exact .inr ⟨not_generates_of_taken htaken, rfl⟩
  | false =>
    simp only [htaken, Bool.false_eq_true, if_false] at h
    split at h
    · next hneeds =>
      cases h
      right
      rw [Bool.and_eq_true, StatementName.needsKey_iff, Option.isNone_iff_eq_none] at hneeds
      refine ⟨fun hgenerates => ?_, rfl⟩
      have hkey := hgenerates.2.1 hneeds.1
      rw [hneeds.2] at hkey
      cases hkey
    · next hneeds =>
      obtain ⟨s, hmake, rfl⟩ := map_eq_ok.mp h
      left
      refine ⟨⟨taken_eq_false_iff.mp htaken, fun hk => ?_, fun he => absurd he hexemplary⟩,
        s, rfl, make_key hmake⟩
      have hkeyed : name.needsKey = true := (StatementName.needsKey_iff name).mpr hk
      exact Option.isSome_iff_ne_none.mpr (by simpa [hkeyed] using hneeds)

/-- A successful step gives a statement exactly for the names that are generated. -/
theorem build_spec {name : StatementName} {built? : Option Statement}
    (h : g.build r name = .ok built?) :
    (g.Generates r name ∧ ∃ s, built? = some s ∧ s.key = g.place name) ∨
      (¬ g.Generates r name ∧ built? = none) := by
  cases hexample : name.needsExample with
  | true => exact build_exemplary hexample h
  | false => exact build_ordinary hexample h

/-- The statements built are those of the generated names, in order. -/
theorem buildAll_keys {names : List StatementName} {built : List Statement}
    (h : g.buildAll r names = .ok built) :
    built.map Statement.key = (names.filter (g.Generates r ·)).map g.place := by
  induction names generalizing built with
  | nil =>
    cases h
    rfl
  | cons name rest ih =>
    obtain ⟨built?, hbuild, h⟩ := bind_eq_ok.mp h
    obtain ⟨others, hothers, h⟩ := bind_eq_ok.mp h
    cases h
    rw [List.map_append, ih hothers]
    rcases build_spec hbuild with ⟨hgenerates, s, rfl, hkey⟩ | ⟨hskips, rfl⟩
    · simp [hgenerates, hkey]
    · simp [hskips]

/-! ## What is built -/

/-- A statement that is built is the one that is made for its name. -/
theorem make_of_build {name : StatementName} (h : g.build r name = .ok (some s)) :
    ∃ companion, g.make companion name = .ok s := by
  unfold build at h
  split at h
  · rcases bind_eq_ok.mp h with ⟨found?, _, h⟩
    cases found? with
    | none => cases h
    | some companion =>
      dsimp only at h
      split at h
      · cases h
      · rcases map_eq_ok.mp h with ⟨made, hmade, hsome⟩
        cases hsome
        exact ⟨companion, hmade⟩
  · split at h
    · cases h
    · split at h
      · cases h
      · rcases map_eq_ok.mp h with ⟨made, hmade, hsome⟩
        cases hsome
        exact ⟨"", hmade⟩

/-- Every statement that is built is made for a name that is generated. -/
theorem make_of_mem_buildAll {names : List StatementName} {built : List Statement}
    (h : g.buildAll r names = .ok built) (hs : s ∈ built) :
    ∃ name ∈ names, g.Generates r name ∧ ∃ companion, g.make companion name = .ok s := by
  induction names generalizing built with
  | nil =>
    cases h
    cases hs
  | cons name rest ih =>
    rcases bind_eq_ok.mp h with ⟨built?, hbuild, h⟩
    rcases bind_eq_ok.mp h with ⟨others, hothers, h⟩
    cases h
    rcases List.mem_append.mp hs with hs | hs
    · rw [Option.mem_toList] at hs
      subst hs
      rcases build_spec hbuild with ⟨hgenerates, _⟩ | ⟨_, hnone⟩
      · exact ⟨name, List.mem_cons_self, hgenerates, make_of_build hbuild⟩
      · cases hnone
    · rcases ih hothers hs with ⟨found, hfound, hmade⟩
      exact ⟨found, List.mem_cons_of_mem _ hfound, hmade⟩

end Generator

end EntityMapping
