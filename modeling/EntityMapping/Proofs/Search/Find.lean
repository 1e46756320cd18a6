import EntityMapping.Generation.Select
import EntityMapping.Proofs.Search.Keys
import EntityMapping.Proofs.Search.Ordering
import EntityMapping.Proofs.Search.Predicates

/-!
# Searches

What the searches of a repository come to when they are called.  Restrictions by keys and by
conditions are led by a connective each; the clause around them takes the first one off, so
whatever is active is joined into one condition.

Main results:

- `Generator.yields_findQuery`: the search restricts its rows by all filters that are active.
- `Generator.search_restricted`: the searches and the count of an entity with a simple key or
  without a key.
-/

namespace EntityMapping.Generator

open Generation

variable {g : Generator} {q : Request} {t : Template}

/-! ## Filters -/

/-- The predicates of the active conditions of the entity. -/
def activeFilters (g : Generator) (search : Json) : List Sql :=
  activePredicates g.dialect search (conditionsOf g.entity)

/-- Every active filter has something to see. -/
theorem activeFilters_visible (search : Json) :
    ∀ filter ∈ g.activeFilters search, filter.IsVisible := by
  intro filter hfilter
  obtain ⟨pc, _, rfl⟩ := List.mem_map.mp hfilter
  exact predicateSql_visible g.dialect search pc

/-- The condition block yields the active filters, each led by a connective. -/
theorem yields_activeFilters (h : conditionBlock g.entity g.dialect = .ok t) :
    t.Yields q ((g.activeFilters (q.valueOf .condition)).flatMap
      fun filter => Sql.text " and " ++ filter) :=
  yields_conditionBlock h

/-! ## Queries -/

/-- The filters of a search, each led by a connective. -/
def ledFilters (g : Generator) (q : Request) : Sql :=
  (g.keyFilters q.ids? ++ g.activeFilters (q.valueOf .condition)).flatMap
    fun filter => Sql.text " and " ++ filter

/-- What stands in front of the ordering of a search comes to a clause of its filters. -/
theorem yields_filtered {keys conditions : Template} (hkeys : g.guardedKeysMatch = .ok keys)
    (hconditions : conditionBlock g.entity g.dialect = .ok conditions) :
    (Template.text ("select * from " ++ g.table ++ " ") ++ .whereClause (keys ++ conditions) ++
      .text " ").Yields q (Sql.text ("select * from " ++ g.table ++ " ") ++
        Sql.whereOf (g.ledFilters q) ++ Sql.text " ") := by
  have hfilters :=
    (yields_guardedKeysMatch hkeys).append (yields_activeFilters (q := q) hconditions)
  rw [← List.flatMap_append, ← ledFilters] at hfilters
  exact ((Template.yields_text _).append hfilters.whereClause).append (Template.yields_text " ")

/-- A search is made only if the columns can be flattened. -/
theorem exists_slots_of_findQuery {t : Template} (h : g.findQuery = .ok t) :
    ∃ slots, g.slots = .ok slots := by
  obtain ⟨keys, _, h⟩ := bind_eq_ok.mp h
  obtain ⟨conditions, _, h⟩ := bind_eq_ok.mp h
  obtain ⟨order, horder, _⟩ := bind_eq_ok.mp h
  obtain ⟨slots, hslots, _⟩ := bind_eq_ok.mp horder
  exact ⟨slots, hslots⟩

/-- A search has a clause of its filters and an ordering. -/
theorem yields_findQuery_led {slots : List Slot} (hslots : g.slots = .ok slots)
    (h : g.findQuery = .ok t) :
    t.Yields q (Sql.text ("select * from " ++ g.table ++ " ") ++ Sql.whereOf (g.ledFilters q) ++
      Sql.text " " ++ g.orderingSql slots q.sorting?) := by
  obtain ⟨keys, hkeys, h⟩ := bind_eq_ok.mp h
  obtain ⟨conditions, hconditions, h⟩ := bind_eq_ok.mp h
  obtain ⟨order, horder, h⟩ := bind_eq_ok.mp h
  cases h
  exact (yields_filtered hkeys hconditions).append (yields_orderBy hslots horder)

/-- The search restricts its rows by all filters that are active, and orders them. -/
theorem yields_findQuery {slots : List Slot} (hslots : g.slots = .ok slots)
    (h : g.findQuery = .ok t) (hids : q.ids? ≠ some []) :
    t.Yields q (Sql.text ("select * from " ++ g.table ++ " ") ++
      Sql.whereAll (g.keyFilters q.ids? ++ g.activeFilters (q.valueOf .condition)) ++
        Sql.text " " ++ g.orderingSql slots q.sorting?) := by
  have hvisible : ∀ filter ∈ g.keyFilters q.ids? ++ g.activeFilters (q.valueOf .condition),
      filter.IsVisible := by
    intro filter hfilter
    rcases List.mem_append.mp hfilter with hfilter | hfilter
    · exact keyFilters_visible hids filter hfilter
    · exact activeFilters_visible _ filter hfilter
  rw [← Sql.whereOf_led hvisible]
  exact yields_findQuery_led hslots h

/-- The count restricts the rows that it counts by the active conditions. -/
theorem yields_countStatement {count : Statement} (h : g.countStatement = .ok count) :
    count.body.Yields q (Sql.text ("select count(*) from " ++ g.table ++ " ") ++
      Sql.whereAll (g.activeFilters (q.valueOf .condition))) := by
  obtain ⟨conditions, hconditions, h⟩ := bind_eq_ok.mp h
  cases h
  have hclause := (yields_activeFilters (q := q) hconditions).whereClause
  rw [Sql.whereOf_led (activeFilters_visible _)] at hclause
  exact (Template.yields_text _).append hclause

/-! ## Searches by a simple key -/

/-- The filter of a simple key: its column is among the ids that are given. -/
def idFilters (g : Generator) (ids? : Option (List Json)) : List Sql :=
  match g.entity.key, ids? with
  | .simple p, some ids =>
    [Sql.text (p.column.name.render g.dialect ++ " in (") ++
      Sql.join "," (ids.map fun id => [.bound id none]) ++ Sql.text ")"]
  | _, _ => []

/-- Without a composite key, ids that are given restrict as one list. -/
theorem keyFilters_eq_idFilters {ids? : Option (List Json)}
    (hkey : g.entity.hasCompositeKey = false) (hids : ids? ≠ some []) :
    g.keyFilters ids? = g.idFilters ids? := by
  unfold Entity.hasCompositeKey at hkey
  unfold idFilters
  cases hshape : g.entity.key with
  | none => simp [keyFilters, hshape]
  | simple p =>
    rw [keyFilters_of_key (by simp [hshape])]
    cases ids? with
    | none => rfl
    | some ids =>
      have hne : (ids.map fun id => [Piece.bound id none]) ≠ [] := by
        intro hnil
        exact hids (by rw [List.map_eq_nil_iff.mp hnil])
      have hrounds : ∀ round ∈ ids.map fun id => [Piece.bound id none], round ≠ [] := by
        intro round hround
        obtain ⟨id, _, rfl⟩ := List.mem_map.mp hround
        exact List.cons_ne_nil _ _
      have hfilter : g.idsSql ids = Sql.text (p.column.name.render g.dialect ++ " in (") ++
          Sql.join "," (ids.map fun id => [.bound id none]) ++ Sql.text ")" := by
        rw [idsSql_simple hshape, Sql.looped_of_ne_nil hne hrounds]
        have hopening : Sql.text " in (" = Sql.text " in " ++ Sql.text "(" := rfl
        simp [hopening]
      simp [hfilter]
  | embedded p =>
    rw [hshape] at hkey
    cases hkey
  | composite properties keyClass =>
    rw [hshape] at hkey
    cases hkey

/-- The clause that restricts the rows of a search to ids and active conditions. -/
def clause (g : Generator) (ids? : Option (List Json)) (search : Json) : Sql :=
  Sql.whereAll (g.idFilters ids? ++ g.activeFilters search)

/-- Without a key of several columns, a search is restricted to the ids that are given and by
the conditions that are active, all joined; so is the search for a page, and the count is
restricted like a search without ids. -/
theorem search_restricted {find : Statement} (hkey : g.entity.hasCompositeKey = false)
    (hids : q.ids? ≠ some []) (hfind : g.findStatement false = .ok find) :
    ∃ paged count slots, g.findStatement true = .ok paged ∧ g.countStatement = .ok count ∧
      g.slots = .ok slots ∧
      let rows := Sql.text ("select * from " ++ g.table ++ " ") ++
        g.clause q.ids? (q.valueOf .condition) ++ Sql.text " " ++
          g.orderingSql slots q.sorting?
      find.body.evaluate q.json = rows ∧
      paged.body.evaluate q.json = g.dialect.windowFront ++ rows ++
        g.dialect.windowBack (q.valueOf .offset) (q.valueOf .pageSize) ∧
      count.body.evaluate q.json = Sql.text ("select count(*) from " ++ g.table ++ " ") ++
        g.clause none (q.valueOf .condition) := by
  obtain ⟨query, hquery, hfind⟩ := bind_eq_ok.mp hfind
  cases hfind
  obtain ⟨keys, _, hrest⟩ := bind_eq_ok.mp hquery
  obtain ⟨conditions, hconditions, hrest⟩ := bind_eq_ok.mp hrest
  obtain ⟨order, horder, _⟩ := bind_eq_ok.mp hrest
  obtain ⟨slots, hslots, _⟩ := bind_eq_ok.mp horder
  have hyields := yields_findQuery hslots hquery hids
  rw [keyFilters_eq_idFilters hkey hids] at hyields
  have hpaged : ∃ paged, g.findStatement true = .ok paged ∧
      paged.body = g.dialect.window query :=
    ⟨_, bind_eq_ok.mpr ⟨query, hquery, rfl⟩, rfl⟩
  have hcount : ∃ count, g.countStatement = .ok count :=
    ⟨_, bind_eq_ok.mpr ⟨conditions, hconditions, rfl⟩⟩
  obtain ⟨paged, hpaged, hbody⟩ := hpaged
  obtain ⟨count, hcount⟩ := hcount
  refine ⟨paged, count, slots, hpaged, hcount, hslots, hyields.evaluate, ?_, ?_⟩
  · rw [hbody]
    exact (hyields.window g.dialect).evaluate
  · have hnone : g.idFilters none = [] := by
      unfold idFilters
      split
      · next h => cases h
      · rfl
    rw [clause, hnone]
    exact (yields_countStatement hcount).evaluate

/-! ## A search for users -/

/-- Users with a simple key and three conditions. -/
def users : Generator :=
  let text (name : String) (conditions : List Condition) :=
    { Property.plain .basic name "String" ⟨.plain name, .varchar⟩ with conditions }
  let entity : Entity :=
    { Entity.plain "app::User" "users" with
      properties :=
        [Property.plain .id "id" "i64" ⟨.plain "id", .bigint⟩,
          text "name" [⟨.containing, .always, none, []⟩],
          text "age" [⟨.between, .never, none, ["minAge", "maxAge"]⟩],
          text "status" [⟨.isIn, .never, none, []⟩]] }
  { catalog := Catalog.add .empty entity
    dialect := .postgres
    repository := ⟨"app::Users", "app::User", false⟩
    entity
    defaultSequence := "user_seq" }

/-- A request for two ids, with a search object that gives one bound of the age only. -/
def usersRequest : Request :=
  (Request.empty.apply (.ids [.int 1, .int 2])).apply
    (.condition (.object
      [("name", .string "ann"), ("minAge", .int 18),
        ("status", .array [.string "new", .string "old"])]))

/-- The search joins the ids, the pattern and the list; the age does not count. -/
theorem search_restricted_users : ∃ find, users.findStatement false = .ok find ∧
    find.body.evaluate usersRequest.json =
      Sql.text "select * from users where id in (" ++ [.bound (.int 1) none] ++ Sql.text "," ++
        [.bound (.int 2) none] ++ Sql.text ") and lower(name)  like  lower(" ++
        [.bound (.string "%ann%") none] ++ Sql.text ") and status  in  (" ++
        [.bound (.string "new") none] ++ Sql.text "," ++ [.bound (.string "old") none] ++
        Sql.text ") " := by
  obtain ⟨find, hfind⟩ :=
    isOk_iff.mp (by decide : (users.findStatement false).isOk = true)
  obtain ⟨paged, count, slots, _, _, _, hrows, _, _⟩ :=
    search_restricted (q := usersRequest) (by decide) (by simp [usersRequest]) hfind
  exact ⟨find, hfind, hrows⟩

end EntityMapping.Generator
