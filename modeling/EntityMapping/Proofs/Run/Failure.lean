import EntityMapping.Proofs.Run.Building
import EntityMapping.Proofs.Run.InPlace
import Mathlib.Data.List.Basic

/-!
# When a run fails

A run fails because of the metadata or the dialect, and only if a statement that would show
the fault is still to be made; missing example metadata is the exception, which fails every
run of a repository with example queries.  A failed run leaves the registry alone, also when
the registry is shared and the fault shows after other statements were made.

Main results:

- `Generator.fails_make_iff`: the faults that stop each statement.
- `Generator.fails_build_iff`: a step fails if its statement is still to be made and stopped.
- `Generator.fails_run_iff`, `Generator.run_fails_iff`: the faults that stop a run, and what is left
  then.
-/

namespace EntityMapping

open Generation

/-! ## Faults of the parts -/

namespace Catalog

/-- A type that is required is missed exactly if it is not registered. -/
theorem fails_required_iff (c : Catalog) (typeName : String) :
    Fails (c.required typeName) ↔ c.get? typeName = none := by
  unfold required
  cases c.get? typeName <;> simp

/-- The slots of properties are unknown exactly if an embedded type is. -/
theorem fails_slotsOf_iff (c : Catalog) (ps : List Property) :
    Fails (c.slotsOf ps) ↔ ∃ p ∈ ps, p.isEmbedded = true ∧ c.get? p.typeName = none := by
  induction ps with
  | nil => simp [slotsOf]
  | cons p rest ih =>
    have hproperty : Fails (c.slotsOfProperty p) ↔
        p.isEmbedded = true ∧ c.get? p.typeName = none := by
      unfold slotsOfProperty
      cases p.isEmbedded with
      | true => simp [fails_required_iff]
      | false => simp
    rw [slotsOf, fails_bind_of_iff fun slots => fails_bind_pure, hproperty, ih,
      List.exists_mem_cons_iff]

end Catalog

namespace Generation

/-- The associations of properties are unknown exactly if an embedded type is. -/
theorem fails_associations_iff (c : Catalog) (ps : List Property) :
    Fails (associations c ps) ↔ ∃ p ∈ ps, p.isEmbedded = true ∧ c.get? p.typeName = none := by
  induction ps with
  | nil => simp [associations]
  | cons p rest ih =>
    rw [associations, List.exists_mem_cons_iff, ← ih]
    cases p.isEmbedded with
    | true =>
      simp only [if_true, true_and]
      rw [fails_bind_of_iff fun e => fails_bind_pure, Catalog.fails_required_iff]
    | false => simp

/-- A condition that takes operands but not as many as it has; without declared operands it
has one. -/
def Misfit (c : Condition) : Prop :=
  c.comparison.arity ≠ 0 ∧
    c.comparison.arity ≠ if c.operands = [] then 1 else c.operands.length

/-- Without declared operands a condition has one. -/
theorem length_operands (p : Property) (c : Condition) :
    (operands p c).length = if c.operands = [] then 1 else c.operands.length := by
  unfold operands
  cases c.operands <;> simp

/-- The item of a condition fails exactly if the condition is a misfit. -/
theorem fails_conditionItem_iff (e : Entity) (p : Property) (c : Condition) (index : Nat)
    (d : Dialect) : Fails (conditionItem e p c index d) ↔ Misfit c := by
  have hcheck : Fails (checkArity e p c.comparison (operands p c).length) ↔ Misfit c := by
    rw [length_operands, Misfit, checkArity]
    by_cases h : c.comparison.arity ≠ 0 ∧
        c.comparison.arity ≠ if c.operands = [] then 1 else c.operands.length
    · rw [if_pos h]
      exact iff_of_true (fails_error _) h
    · rw [if_neg h]
      exact iff_of_false (not_fails_ok _) h
  rw [conditionItem, fails_bind_pure, hcheck]

/-- The items of conditions fail exactly if one of the conditions is a misfit. -/
theorem fails_conditionItems_iff (e : Entity) (d : Dialect) (index : Nat)
    (items : List (Property × Condition)) :
    Fails (conditionItems e d index items) ↔ ∃ item ∈ items, Misfit item.2 := by
  induction items generalizing index with
  | nil => simp [conditionItems]
  | cons item rest ih =>
    obtain ⟨p, c⟩ := item
    rw [conditionItems, fails_bind_of_iff fun first => fails_bind_pure, fails_conditionItem_iff,
      ih, List.exists_mem_cons_iff]

/-- The condition block is unknown exactly if a condition of some property is a misfit. -/
theorem fails_conditionBlock_iff (e : Entity) (d : Dialect) :
    Fails (conditionBlock e d) ↔ ∃ p ∈ e.properties, ∃ c ∈ p.conditions, Misfit c := by
  rw [conditionBlock, fails_bind_pure, fails_conditionItems_iff]
  constructor
  · rintro ⟨⟨p, c⟩, hmem, hmisfit⟩
    obtain ⟨q, hq, hitem⟩ := List.mem_flatMap.mp hmem
    obtain ⟨c', hc', heq⟩ := List.mem_map.mp hitem
    cases heq
    exact ⟨_, hq, _, hc', hmisfit⟩
  · rintro ⟨p, hp, c, hc, hmisfit⟩
    exact ⟨(p, c), List.mem_flatMap.mpr ⟨p, hp, List.mem_map_of_mem hc⟩, hmisfit⟩

/-- A strategy of key generation that the dialect does not serve. -/
def Unserved (d : Dialect) : KeyStrategy → Prop
  | .table => True
  | .identity => d = .oracle
  | .sequence => d = .mysql
  | .auto => False

/-- The selection of a key fails exactly if the dialect does not serve its strategy. -/
theorem fails_keySelect_iff (e : Entity) (p : Property) (generation : KeyGeneration) (d : Dialect)
    (default : String) :
    Fails (keySelect e p generation d default) ↔ Unserved d generation.strategy := by
  rw [keySelect, fails_map, keySql, resolvedStrategy]
  cases generation.strategy <;> cases d <;>
    simp [Dialect.nativeStrategy, Dialect.identitySelect, Dialect.sequenceNext, Unserved]

end Generation

/-! ## Faults of the statements -/

namespace Entity

/-- The statements that read the flattened columns: a simple key needs none of them to match
a list of ids. -/
def flattening (e : Entity) : List StatementName :=
  [.resultMap, .baseColumnList, .insert, .insertSelective, .find, .findByPager] ++
    match e.key with
    | .none => []
    | .simple _ =>
      [.updateSelectiveById, .updateSelective, .updateById, .update, .deleteById, .getById]
    | _ =>
      [.updateSelectiveById, .updateSelective, .updateById, .update, .deleteById, .getById,
        .deleteByIds]

/-- The statements that flatten, with a key and without. -/
theorem mem_flattening_iff (e : Entity) (name : StatementName) :
    name ∈ e.flattening ↔
      name ∈ [.resultMap, .baseColumnList, .insert, .insertSelective, .find, .findByPager] ∨
        e.key ≠ .none ∧ (name ∈ [.updateSelectiveById, .updateSelective, .updateById, .update,
          .deleteById, .getById] ∨ name = .deleteByIds ∧ ∀ p, e.key ≠ .simple p) := by
  unfold flattening
  rw [List.mem_append]
  refine or_congr_right ?_
  cases e.key <;> simp [or_assoc]

end Entity

namespace Generator

variable {g : Generator} {r : Registry}

/-- Some embedded property names a type that the catalog does not hold. -/
def LacksEmbedded (g : Generator) : Prop :=
  ∃ p ∈ g.entity.properties, p.isEmbedded = true ∧ g.catalog.contains p.typeName = false

/-- The single key property is generated in a way that the dialect does not serve. -/
def RefusesKey (g : Generator) : Prop :=
  ∃ p generation, g.entity.key = .simple p ∧ p.generated? = some generation ∧
    Unserved g.dialect generation.strategy

/-- Some condition of some property is a misfit. -/
def HasMisfit (g : Generator) : Prop :=
  ∃ p ∈ g.entity.properties, ∃ c ∈ p.conditions, Misfit c

/-- Example queries are declared, but the entity lacks the marker or its companion. -/
def LacksExample (g : Generator) : Prop :=
  g.repository.exampleQuery = true ∧
    (g.entity.supportsExample = false ∨ g.entity.companion? = none)

/-- Flattening fails exactly if an embedded type is missing. -/
theorem fails_slots_iff : Fails g.slots ↔ g.LacksEmbedded := by
  simp only [slots, Catalog.slots, Catalog.fails_slotsOf_iff, LacksEmbedded,
    SortedMap.contains_eq_false_iff]

/-- The result map fails exactly if an embedded type is missing. -/
theorem fails_resultMapStatement_iff : Fails g.resultMapStatement ↔ g.LacksEmbedded := by
  rw [resultMapStatement, fails_bind_pure, fails_associations_iff]
  simp only [LacksEmbedded, SortedMap.contains_eq_false_iff]

/-- The column list fails exactly if an embedded type is missing. -/
theorem fails_baseColumnListStatement_iff :
    Fails g.baseColumnListStatement ↔ g.LacksEmbedded := by
  rw [baseColumnListStatement, fails_bind_pure, fails_slots_iff]

/-- The key of an insertion fails exactly if the dialect does not serve it. -/
theorem fails_insertKey_iff : Fails g.insertKey ↔ g.RefusesKey := by
  unfold insertKey Entity.hasCompositeKey Entity.keyProperty? RefusesKey
  cases hkey : g.entity.key with
  | none => simp
  | embedded p => simp
  | composite ps keyClass => simp
  | simple p =>
    cases hgenerated : p.generated? with
    | none => simp [hgenerated]
    | some generation => simp [hgenerated, fails_keySelect_iff]

/-- An insertion fails by its key or by a missing type. -/
theorem fails_insertStatement_iff (selective : Bool) :
    Fails (g.insertStatement selective) ↔ g.RefusesKey ∨ g.LacksEmbedded := by
  rw [insertStatement, fails_bind_of_iff fun _ => fails_bind_pure, fails_insertKey_iff,
    fails_slots_iff]

/-- With a key its match is unknown exactly if the columns are. -/
theorem fails_keyMatch_iff (hkey : g.entity.key ≠ .none) (source : KeySource) :
    Fails (g.keyMatch source) ↔ g.LacksEmbedded := by
  unfold keyMatch keySlots
  split
  · next hnone => exact absurd hnone hkey
  · simp only [fails_map, fails_slots_iff]

/-- Matching several keys reads the columns unless the key is simple. -/
theorem fails_keysMatch_iff (hkey : g.entity.key ≠ .none) :
    Fails g.keysMatch ↔ (∀ p, g.entity.key ≠ .simple p) ∧ g.LacksEmbedded := by
  unfold keysMatch keySlots
  split
  · next hnone => exact absurd hnone hkey
  · next p hsimple => simp [hsimple]
  · next _ hsimple =>
    simp only [fails_map, fails_slots_iff]
    exact (and_iff_right fun p hp => hsimple p hp).symm

/-- The restriction to given keys fails only for want of the columns. -/
theorem lacksEmbedded_of_fails_guardedKeysMatch (h : Fails g.guardedKeysMatch) :
    g.LacksEmbedded := by
  unfold guardedKeysMatch at h
  split at h
  · exact absurd h (not_fails_ok _)
  · next keyType htype =>
    have hkey : g.entity.key ≠ .none := (g.entity.keyType?_isSome).mp (by simp [htype])
    rw [fails_map, fails_keysMatch_iff hkey] at h
    exact h.2

/-- The order of a search fails exactly if an embedded type is missing. -/
theorem fails_orderBy_iff : Fails g.orderBy ↔ g.LacksEmbedded := by
  rw [orderBy, fails_bind_pure, fails_slots_iff]

/-- A search fails by a missing type or by a condition that is a misfit. -/
theorem fails_findStatement_iff (paged : Bool) :
    Fails (g.findStatement paged) ↔ g.LacksEmbedded ∨ g.HasMisfit := by
  have hquery : Fails g.findQuery ↔
      Fails g.guardedKeysMatch ∨ g.HasMisfit ∨ g.LacksEmbedded := by
    rw [findQuery, fails_bind_of_iff fun keys =>
      fails_bind_of_iff fun conditions => fails_bind_pure, fails_conditionBlock_iff,
      fails_orderBy_iff]
    rfl
  rw [findStatement, fails_bind_pure, hquery]
  constructor
  · rintro (hkeys | hmisfit | hlacks)
    · exact .inl (lacksEmbedded_of_fails_guardedKeysMatch hkeys)
    · exact .inr hmisfit
    · exact .inl hlacks
  · rintro (hlacks | hmisfit)
    · exact .inr (.inr hlacks)
    · exact .inr (.inl hmisfit)

/-- The count fails exactly if a condition is a misfit. -/
theorem fails_countStatement_iff : Fails g.countStatement ↔ g.HasMisfit := by
  rw [countStatement, fails_bind_pure, fails_conditionBlock_iff]
  rfl

/-- An update fails exactly if an embedded type is missing. -/
theorem fails_updateStatement_iff (hkey : g.entity.key ≠ .none) (selective byId : Bool) :
    Fails (g.updateStatement selective byId) ↔ g.LacksEmbedded := by
  rw [updateStatement, fails_bind_of_iff fun _ => fails_bind_pure, fails_keyMatch_iff hkey,
    fails_slots_iff, or_self]

/-- A deletion by key fails exactly if an embedded type is missing. -/
theorem fails_deleteByIdStatement_iff (hkey : g.entity.key ≠ .none) :
    Fails g.deleteByIdStatement ↔ g.LacksEmbedded := by
  rw [deleteByIdStatement, fails_bind_pure, fails_keyMatch_iff hkey]

/-- A deletion by keys fails by a missing type, but not if the key is simple. -/
theorem fails_deleteByIdsStatement_iff (hkey : g.entity.key ≠ .none) :
    Fails g.deleteByIdsStatement ↔ (∀ p, g.entity.key ≠ .simple p) ∧ g.LacksEmbedded := by
  rw [deleteByIdsStatement, fails_bind_pure, fails_keysMatch_iff hkey]

/-- Looking up a row fails exactly if an embedded type is missing. -/
theorem fails_getByIdStatement_iff (hkey : g.entity.key ≠ .none) :
    Fails g.getByIdStatement ↔ g.LacksEmbedded := by
  rw [getByIdStatement, fails_bind_pure, fails_keyMatch_iff hkey]

/-- The faults that stop the statement of a name. -/
def Stopped (g : Generator) (name : StatementName) : Prop :=
  name ∈ g.entity.flattening ∧ g.LacksEmbedded ∨
    name ∈ [.insert, .insertSelective] ∧ g.RefusesKey ∨
      name ∈ [.find, .findByPager, .count] ∧ g.HasMisfit

/-- A statement that can be asked for is stopped by its faults and by nothing else. -/
theorem fails_make_iff {name : StatementName}
    (hkey : name ∈ StatementName.keyed → g.entity.key ≠ .none) (companion : String) :
    Fails (g.make companion name) ↔ g.Stopped name := by
  unfold Stopped
  rw [Entity.mem_flattening_iff]
  cases name with
  | resultMap => simp [make, fails_resultMapStatement_iff]
  | baseColumnList => simp [make, fails_baseColumnListStatement_iff]
  | insertSelective => simp [make, fails_insertStatement_iff, or_comm]
  | insert => simp [make, fails_insertStatement_iff, or_comm]
  | deleteAll => simp [make]
  | findByPager => simp [make, fails_findStatement_iff]
  | find => simp [make, fails_findStatement_iff]
  | countAll => simp [make]
  | count => simp [make, fails_countStatement_iff]
  | exampleWhereClause => simp [make]
  | findByExample => simp [make]
  | updateSelectiveById =>
    have hkey := hkey (by decide)
    simp [make, fails_updateStatement_iff hkey, hkey]
  | updateSelective =>
    have hkey := hkey (by decide)
    simp [make, fails_updateStatement_iff hkey, hkey]
  | updateById =>
    have hkey := hkey (by decide)
    simp [make, fails_updateStatement_iff hkey, hkey]
  | update =>
    have hkey := hkey (by decide)
    simp [make, fails_updateStatement_iff hkey, hkey]
  | deleteById =>
    have hkey := hkey (by decide)
    simp [make, fails_deleteByIdStatement_iff hkey, hkey]
  | deleteByIds =>
    have hkey := hkey (by decide)
    simp [make, fails_deleteByIdsStatement_iff hkey, hkey]
  | getById =>
    have hkey := hkey (by decide)
    simp [make, fails_getByIdStatement_iff hkey, hkey]

/-! ## Faults of a run -/

/-- The companion fails exactly if example queries are declared without one. -/
theorem fails_companion?_iff : Fails g.companion? ↔ g.LacksExample := by
  unfold companion? LacksExample
  cases g.repository.exampleQuery with
  | false => simp
  | true =>
    cases g.entity.supportsExample with
    | false => simp
    | true => cases g.entity.companion? <;> simp

/-- Nothing stops the statements that serve example queries. -/
theorem not_stopped_of_exemplary {name : StatementName} (h : name ∈ StatementName.exemplary) :
    ¬ g.Stopped name := by
  unfold Stopped
  rw [Entity.mem_flattening_iff]
  simp only [StatementName.exemplary, List.mem_cons, List.not_mem_nil, or_false] at h
  rcases h with rfl | rfl <;> simp

/-- Without a key no statement that needs one is stopped: it is not asked for. -/
theorem key_ne_none_of_stopped {name : StatementName} (h : g.Stopped name)
    (hkeyed : name ∈ StatementName.keyed) : g.entity.key ≠ .none := by
  intro hnone
  unfold Stopped at h
  rw [Entity.mem_flattening_iff, hnone] at h
  cases name <;> simp_all [StatementName.keyed]

/-- An example query is stopped by its metadata, whatever the registry holds. -/
theorem fails_build_exemplary_iff {name : StatementName}
    (hexample : name.needsExample = true) : Fails (g.build r name) ↔ g.LacksExample := by
  have hexemplary := (StatementName.needsExample_iff name).mp hexample
  have hmake : ∀ companion, ¬ Fails (g.make companion name) := by
    intro companion
    rw [fails_make_iff (fun hkeyed => ?_)]
    · exact not_stopped_of_exemplary hexemplary
    · rw [← StatementName.needsKey_iff, StatementName.needsKey_of_needsExample hexample] at hkeyed
      cases hkeyed
  rw [build, if_pos hexample]
  refine (fails_bind_of_iff (P := False) fun found? => ?_).trans ?_
  · cases found? with
    | none => simp
    | some companion => cases g.taken r name <;> simp [hmake]
  · rw [fails_companion?_iff, or_false]

/-- A step fails if its statement is still to be made and stopped, or for want of example
metadata. -/
theorem fails_build_iff (name : StatementName) :
    Fails (g.build r name) ↔
      name ∈ StatementName.exemplary ∧ g.LacksExample ∨
        r.get? (g.place name) = none ∧ g.Stopped name := by
  cases hexample : name.needsExample with
  | true =>
    have hexemplary := (StatementName.needsExample_iff name).mp hexample
    rw [fails_build_exemplary_iff hexample]
    simp [hexemplary, not_stopped_of_exemplary hexemplary]
  | false =>
    have hexemplary : name ∉ StatementName.exemplary := by
      rw [← StatementName.needsExample_iff, hexample]
      decide
    simp only [hexemplary, false_and, false_or, ← taken_eq_false_iff, build, hexample,
      Bool.false_eq_true, if_false]
    cases htaken : g.taken r name with
    | true => simp
    | false =>
      by_cases hskip : name.needsKey = true ∧ g.entity.keyType? = none
      · have hnone : g.entity.key = .none := by
          by_contra hkey
          have hsome := g.entity.keyType?_isSome.mpr hkey
          rw [hskip.2] at hsome
          cases hsome
        have hstopped : ¬ g.Stopped name := fun h =>
          key_ne_none_of_stopped h ((StatementName.needsKey_iff name).mp hskip.1) hnone
        simp [hskip, hstopped]
      · have hkey : name ∈ StatementName.keyed → g.entity.key ≠ .none := by
          intro hkeyed
          refine g.entity.keyType?_isSome.mp (Option.isSome_iff_ne_none.mpr fun hnone => ?_)
          exact hskip ⟨(StatementName.needsKey_iff name).mpr hkeyed, hnone⟩
        have hgoes : ¬ (name.needsKey && g.entity.keyType?.isNone) = true := by
          simpa using hskip
        simp [hgoes, fails_make_iff hkey]

/-- Building statements fails exactly if one of them fails. -/
theorem fails_buildAll_iff (names : List StatementName) :
    Fails (g.buildAll r names) ↔ ∃ name ∈ names, Fails (g.build r name) := by
  induction names with
  | nil => simp [buildAll]
  | cons name rest ih =>
    rw [buildAll, fails_bind_of_iff fun _ => fails_bind_pure, ih, List.exists_mem_cons_iff]

/-- A run fails exactly if one of its statements fails. -/
theorem fails_run_iff_build :
    Fails (g.run r) ↔ ∃ name, Fails (g.build r name) := by
  have hrun : Fails (g.run r) ↔ Fails (g.buildAll r StatementName.all) := by
    rw [run, fails_bind_of_iff fun built => iff_false_intro (not_fails_pure _), or_false]
  rw [hrun, fails_buildAll_iff]
  simp [StatementName.mem_all]

/-- The faults that stop a run, each with the statements that show it. -/
theorem fails_run_iff (g : Generator) (r : Registry) :
    Fails (g.run r) ↔
      (g.LacksEmbedded ∧ ∃ name ∈ g.entity.flattening, r.get? (g.place name) = none) ∨
        (g.RefusesKey ∧ ∃ name ∈ [.insert, .insertSelective], r.get? (g.place name) = none) ∨
          (g.HasMisfit ∧
            ∃ name ∈ [.find, .findByPager, .count], r.get? (g.place name) = none) ∨
            g.LacksExample := by
  rw [fails_run_iff_build]
  simp only [fails_build_iff, Stopped]
  constructor
  · rintro ⟨name, ⟨_, hexample⟩ | ⟨hfree, hstopped⟩⟩
    · exact .inr (.inr (.inr hexample))
    · rcases hstopped with ⟨hname, hlacks⟩ | ⟨hname, hrefuses⟩ | ⟨hname, hmisfit⟩
      · exact .inl ⟨hlacks, name, hname, hfree⟩
      · exact .inr (.inl ⟨hrefuses, name, hname, hfree⟩)
      · exact .inr (.inr (.inl ⟨hmisfit, name, hname, hfree⟩))
  · rintro (⟨hlacks, name, hname, hfree⟩ | ⟨hrefuses, name, hname, hfree⟩ |
      ⟨hmisfit, name, hname, hfree⟩ | hexample)
    · exact ⟨name, .inr ⟨hfree, .inl ⟨hname, hlacks⟩⟩⟩
    · exact ⟨name, .inr ⟨hfree, .inr (.inl ⟨hname, hrefuses⟩)⟩⟩
    · exact ⟨name, .inr ⟨hfree, .inr (.inr ⟨hname, hmisfit⟩)⟩⟩
    · exact ⟨.findByExample, .inl ⟨by decide, hexample⟩⟩

/-- A run fails exactly for one of four faults.  The first three count only while a statement
that shows them is missing from the namespace.  The same failure shows on a shared registry,
which then is as it was before. -/
theorem run_fails_iff (g : Generator) (r : Registry) :
    (Fails (g.run r) ↔
      (g.LacksEmbedded ∧ ∃ name ∈ g.entity.flattening, r.get? (g.place name) = none) ∨
        (g.RefusesKey ∧ ∃ name ∈ [.insert, .insertSelective], r.get? (g.place name) = none) ∨
          (g.HasMisfit ∧
            ∃ name ∈ [.find, .findByPager, .count], r.get? (g.place name) = none) ∨
            g.LacksExample) ∧
    ∀ e after, g.runInPlace r = .error e after ↔ g.run r = .error e ∧ after = r := by
  refine ⟨fails_run_iff g r, fun e after => ?_⟩
  rw [runInPlace_eq]
  cases g.run r with
  | error cause => simp [eq_comm]
  | ok result => simp

end Generator

end EntityMapping
