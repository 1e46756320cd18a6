import EntityMapping.Proofs.Registry
import EntityMapping.Proofs.Run.Building

/-!
# What a run does to the registry

A successful run adds the statements that are generated, in the order of generation, and
changes nothing else: neither older entries of the namespace nor those of another one.

Main results:

- `Generator.run_eq_ok_iff`: a run registers what was built.
- `Generator.exists_made_of_generates`: a run makes a statement for every name that is generated.
- `Generator.run_effect`: the statements of the outcome, and the registry afterwards.
-/

namespace EntityMapping.Generator

variable {g : Generator} {r after : Registry} {o : Outcome}

/-- A run registers what was built. -/
theorem run_eq_ok_iff :
    g.run r = .ok (o, after) ↔ ∃ built, g.buildAll r StatementName.all = .ok built ∧
      o = ⟨g.repository.namespaceName, (r.registerAll built).1⟩ ∧
        after = (r.registerAll built).2 := by
  constructor
  · intro h
    obtain ⟨built, hbuilt, h⟩ := bind_eq_ok.mp h
    cases h
    exact ⟨built, hbuilt, rfl, rfl⟩
  · rintro ⟨built, hbuilt, rfl, rfl⟩
    simp [run, hbuilt, bind, Except.bind, pure, Except.pure]

/-- A run succeeds where everything can be built. -/
theorem exists_run_of_isOk (h : (g.buildAll r StatementName.all).isOk = true) :
    ∃ o after, g.run r = .ok (o, after) := by
  obtain ⟨built, hbuilt⟩ := isOk_iff.mp h
  exact ⟨_, _, run_eq_ok_iff.mpr ⟨built, hbuilt, rfl, rfl⟩⟩

/-- The statements built have different keys. -/
theorem buildAll_distinct {built : List Statement}
    (h : g.buildAll r StatementName.all = .ok built) : (built.map Statement.key).Nodup := by
  rw [buildAll_keys h]
  exact (StatementName.all_nodup.filter _).map fun a b => place_injective

/-- Every statement built has the key of a generated name. -/
theorem buildAll_place {names : List StatementName} {built : List Statement}
    (h : g.buildAll r names = .ok built) {s : Statement} (hs : s ∈ built) :
    ∃ name ∈ names, g.Generates r name ∧ s.key = g.place name := by
  have hkey : s.key ∈ built.map Statement.key := List.mem_map_of_mem hs
  rw [buildAll_keys h] at hkey
  obtain ⟨name, hname, hplace⟩ := List.mem_map.mp hkey
  obtain ⟨hmem, hgenerates⟩ := List.mem_filter.mp hname
  exact ⟨name, hmem, by simpa using hgenerates, hplace.symm⟩

/-- The keys of the statements built are free. -/
theorem buildAll_free {names : List StatementName} {built : List Statement}
    (h : g.buildAll r names = .ok built) : ∀ s ∈ built, r.get? s.key = none := by
  intro s hs
  obtain ⟨name, _, hgenerates, hplace⟩ := buildAll_place h hs
  rw [hplace]
  exact hgenerates.1

/-- Every statement built belongs to the namespace of the repository. -/
theorem buildAll_namespace {names : List StatementName} {built : List Statement}
    (h : g.buildAll r names = .ok built) :
    ∀ s ∈ built, s.namespaceName = g.repository.namespaceName := by
  intro s hs
  obtain ⟨name, _, _, hplace⟩ := buildAll_place h hs
  exact congrArg StatementKey.namespaceName hplace

/-- The ids of the statements built are those of the generated names, in order. -/
theorem buildAll_ids {names : List StatementName} {built : List Statement}
    (h : g.buildAll r names = .ok built) :
    built.map (·.id) = (names.filter (g.Generates r ·)).map StatementName.id := by
  have hids := congrArg (List.map StatementKey.id) (buildAll_keys h)
  simpa [List.map_map, Function.comp_def, Statement.key, place] using hids

/-- A statement of a run is made for a name, and not for example queries that the repository
does not declare. -/
theorem make_of_mem_run (hrun : g.run r = .ok (o, after)) {s : Statement}
    (hs : s ∈ o.statements) :
    ∃ name, (name ∈ StatementName.exemplary → g.repository.exampleQuery = true) ∧
      s.id = name.id ∧ ∃ companion, g.make companion name = .ok s := by
  rcases run_eq_ok_iff.mp hrun with ⟨built, hbuilt, rfl, rfl⟩
  rw [Registry.registerAll_of_fresh (buildAll_free hbuilt) (buildAll_distinct hbuilt)] at hs
  rcases make_of_mem_buildAll hbuilt hs with ⟨name, _, hgenerates, companion, hmade⟩
  exact ⟨name, hgenerates.2.2, congrArg StatementKey.id (make_key hmade), companion, hmade⟩

/-- The ids of the statements of a run are those of the generated names, in order. -/
theorem ids_of_run (hrun : g.run r = .ok (o, after)) :
    o.statements.map (·.id) = (StatementName.all.filter (g.Generates r ·)).map StatementName.id := by
  rcases run_eq_ok_iff.mp hrun with ⟨built, hbuilt, rfl, rfl⟩
  rw [Registry.registerAll_of_fresh (buildAll_free hbuilt) (buildAll_distinct hbuilt)]
  exact buildAll_ids hbuilt

/-- A run has as many statements as names are generated. -/
theorem length_of_run (hrun : g.run r = .ok (o, after)) :
    o.statements.length = (StatementName.all.filter (g.Generates r ·)).length := by
  have hids := congrArg List.length (ids_of_run hrun)
  rwa [List.length_map, List.length_map] at hids

/-- A statement of a run belongs to the repository, and its place was free. -/
theorem free_of_mem_run (hrun : g.run r = .ok (o, after)) {s : Statement} (hs : s ∈ o.statements) :
    s.namespaceName = g.repository.namespaceName ∧ r.get? s.key = none := by
  rcases run_eq_ok_iff.mp hrun with ⟨built, hbuilt, rfl, rfl⟩
  rw [Registry.registerAll_of_fresh (buildAll_free hbuilt) (buildAll_distinct hbuilt)] at hs
  exact ⟨buildAll_namespace hbuilt s hs, buildAll_free hbuilt s hs⟩

/-- After a run the registry holds its older entries and the statements of the run. -/
theorem get?_after_run (hrun : g.run r = .ok (o, after)) {k : StatementKey} {s : Statement} :
    after.get? k = some s ↔
      r.get? k = some s ∨ s ∈ o.statements ∧ k = ⟨g.repository.namespaceName, s.id⟩ := by
  rcases run_eq_ok_iff.mp hrun with ⟨built, hbuilt, rfl, rfl⟩
  have hfree := buildAll_free hbuilt
  have hdistinct := buildAll_distinct hbuilt
  rw [Registry.registerAll_of_fresh hfree hdistinct, Registry.get?_registerAll_iff hfree hdistinct]
  refine or_congr_right (and_congr_right fun hs => ?_)
  rw [← buildAll_namespace hbuilt s hs]
  exact eq_comm

/-- A run makes a statement for every name that is generated. -/
theorem exists_made_of_generates (hrun : g.run r = .ok (o, after)) {name : StatementName}
    (h : g.Generates r name) :
    ∃ s ∈ o.statements, s.id = name.id ∧ ∃ companion, g.make companion name = .ok s := by
  have hids : name.id ∈ o.statements.map (·.id) := by
    rw [ids_of_run hrun]
    exact List.mem_map_of_mem (List.mem_filter.mpr ⟨StatementName.mem_all name, by simpa using h⟩)
  obtain ⟨s, hs, hid⟩ := List.mem_map.mp hids
  obtain ⟨made, _, hmade, companion, hmake⟩ := make_of_mem_run hrun hs
  obtain rfl : made = name := StatementName.id_injective (hmade.symm.trans hid)
  exact ⟨s, hs, hid, companion, hmake⟩

/-- Every statement of a run is made for a name that is generated. -/
theorem generates_of_mem_run (hrun : g.run r = .ok (o, after)) {name : StatementName}
    {s : Statement} (hs : s ∈ o.statements) (hid : s.id = name.id) : g.Generates r name := by
  have hids : s.id ∈ o.statements.map (·.id) := List.mem_map_of_mem hs
  rw [ids_of_run hrun] at hids
  obtain ⟨found, hfound, hsame⟩ := List.mem_map.mp hids
  obtain rfl : found = name := StatementName.id_injective (hsame.trans hid)
  simpa using (List.mem_filter.mp hfound).2

/-- A successful run lists the generated statements in order and without repetition, and
afterwards the registry holds its older entries and these statements, nothing else. -/
theorem run_effect (h : g.run r = .ok (o, after)) :
    (o.statements.map (·.id) =
        (StatementName.all.filter (g.Generates r ·)).map StatementName.id ∧
      (o.statements.map (·.id)).Nodup) ∧
    (∀ s ∈ o.statements, s.namespaceName = g.repository.namespaceName ∧ r.get? s.key = none) ∧
    ∀ k s, after.get? k = some s ↔
      r.get? k = some s ∨ s ∈ o.statements ∧ k = ⟨g.repository.namespaceName, s.id⟩ := by
  refine ⟨⟨ids_of_run h, ?_⟩, fun s hs => free_of_mem_run h hs, fun k s => get?_after_run h⟩
  rw [ids_of_run h]
  exact (StatementName.all_nodup.filter _).map fun a b => StatementName.id_injective

/-! ## A registry with statements of its own -/

/-- Pairs with a key of two columns and example queries. -/
def pairs : Generator :=
  let key (name : String) := Property.plain .id name "i64" ⟨.plain name, .bigint⟩
  let label := Property.plain .basic "label" "String" ⟨.plain "label", .varchar⟩
  let entity : Entity :=
    { Entity.plain "app::Pair" "pairs" with
      properties := [key "left", key "right", label]
      keyClass? := some "app::PairKey"
      supportsExample := true
      companion? := some "app::PairExample" }
  { catalog := Catalog.add .empty entity
    dialect := .postgres
    repository := ⟨"app::Pairs", "app::Pair", true⟩
    entity
    defaultSequence := "pair_seq" }

/-- A search written by hand. -/
def handWritten : Statement := .plain .select "app::Pairs" "__find" (.text "select 1")

/-- A registry with the search written by hand and a statement of another namespace. -/
def pairsRegistry : Registry :=
  (Registry.registerAll .empty
    [handWritten, .plain .select "app::Logs" "__count" (.text "select 2")]).2

/-- The search written by hand stays, and seventeen statements join it. -/
theorem run_effect_pairs : ∃ o after, pairs.run pairsRegistry = .ok (o, after) ∧
    o.statements.map (·.id) =
      ["__result_map", "__base_column_list", "__insert_selective", "__insert",
        "__update_selective_by_id", "__update_selective", "__update_by_id", "__update",
        "__delete_by_id", "__delete_by_ids", "__delete_all", "__get_by_id", "__find_by_pager",
        "__count_all", "__count", "__example_where_clause", "__find_by_example"] ∧
    after.get? ⟨"app::Pairs", "__find"⟩ = some handWritten := by
  obtain ⟨o, after, hrun⟩ := exists_run_of_isOk
    (by decide : (pairs.buildAll pairsRegistry StatementName.all).isOk = true)
  have effect := run_effect hrun
  refine ⟨_, _, hrun, effect.1.1.trans (by decide), ?_⟩
  exact (effect.2.2 _ _).mpr (.inl (by decide))

end EntityMapping.Generator
