import EntityMapping.Dialect
import EntityMapping.Generation.KeyMatch
import EntityMapping.Generation.Predicate
import EntityMapping.Proofs.Fallible

/-!
# Pieces of templates

What a statement writes and binds is spread over the pieces of its template.  Pieces of one
kind are collected from front to back, through guards, loops and clauses.

Main results:

- `Template.collect_concat`, `Template.collect_join`: pieces of a sequence are those of its parts.
- `Generation.conditionItems_eq_ok`, `Generation.conditionItems_mem`: the guarded predicates of
  conditions, one by one.
- `Generation.columnMaps_conditionBlock`, `Generator.columnMaps_guardedKeysMatch`: restrictions
  of a search bind no map of columns.
-/

namespace EntityMapping

namespace Template

variable {α : Type} {pick : Template → List α}

/-! ## Collecting -/

/-- What is picked from the pieces of a template, in order. -/
def collect (pick : Template → List α) : Template → List α
  | append first second => first.collect pick ++ second.collect pick
  | guard test body => pick (guard test body) ++ body.collect pick
  | loop settings body => pick (loop settings body) ++ body.collect pick
  | trim settings body => pick (trim settings body) ++ body.collect pick
  | whereClause body => pick (whereClause body) ++ body.collect pick
  | setClause body => pick (setClause body) ++ body.collect pick
  | choose branches => pick (choose branches) ++ branches.collect pick
  | branch test body => pick (branch test body) ++ body.collect pick
  | selectKey property column timing typeName body =>
    pick (selectKey property column timing typeName body) ++ body.collect pick
  | association property body => pick (association property body) ++ body.collect pick
  | piece => pick piece

@[simp]
theorem collect_append (first second : Template) :
    (first ++ second).collect pick = first.collect pick ++ second.collect pick := rfl

/-- What is collected from a sequence is collected from its templates in order. -/
theorem collect_concat (hempty : pick empty = []) (ts : List Template) :
    (concat ts).collect pick = ts.flatMap (collect pick) := by
  induction ts with
  | nil => exact hempty
  | cons t rest ih => rw [concat, collect_append, ih, List.flatMap_cons]

/-- Separators from which nothing is collected add nothing. -/
theorem collect_join {separator : String} (hempty : pick empty = [])
    (hseparator : pick (text separator) = []) (ts : List Template) :
    (join separator ts).collect pick = ts.flatMap (collect pick) := by
  induction ts with
  | nil => exact hempty
  | cons t rest ih =>
    have htext : (text separator).collect pick = [] := hseparator
    cases rest with
    | nil => simp [join]
    | cons next rest =>
      have hrest := ih
      rw [join, collect_append, collect_append, htext, hrest, List.append_nil]
      · rfl
      · exact List.cons_ne_nil next rest

/-! ## Values and maps -/

/-- The values that are bound with a type: their paths and types. -/
def typedValues (t : Template) : List (String × JdbcType) :=
  t.collect fun
    | value path (some type) => [(path, type)]
    | _ => []

/-- The maps from paths to columns that are bound to names. -/
def columnMaps (t : Template) : List (List (String × String)) :=
  t.collect fun
    | bind _ (.columns entries) => [entries]
    | _ => []

/-- The names that patterns are bound to, in order. -/
def patternNames (t : Template) : List String :=
  t.collect fun
    | bind name (.pattern _ _ _) => [name]
    | _ => []

@[simp]
theorem typedValues_append (first second : Template) :
    (first ++ second).typedValues = first.typedValues ++ second.typedValues := rfl

@[simp]
theorem typedValues_text (sql : String) : (text sql).typedValues = [] := rfl

@[simp]
theorem typedValues_join (separator : String) (ts : List Template) :
    (join separator ts).typedValues = ts.flatMap typedValues :=
  collect_join rfl rfl ts

@[simp]
theorem columnMaps_append (first second : Template) :
    (first ++ second).columnMaps = first.columnMaps ++ second.columnMaps := rfl

@[simp]
theorem columnMaps_text (sql : String) : (text sql).columnMaps = [] := rfl

@[simp]
theorem columnMaps_cdata (sql : String) : (cdata sql).columnMaps = [] := rfl

@[simp]
theorem columnMaps_value (path : String) (type? : Option JdbcType) :
    (value path type?).columnMaps = [] := rfl

@[simp]
theorem columnMaps_splice (path : String) : (splice path).columnMaps = [] := rfl

@[simp]
theorem columnMaps_columns (name : String) (entries : List (String × String)) :
    (bind name (.columns entries)).columnMaps = [entries] := rfl

@[simp]
theorem columnMaps_pattern (name path : String) (leading trailing : Bool) :
    (bind name (.pattern leading path trailing)).columnMaps = [] := rfl

@[simp]
theorem columnMaps_guard (test : Test) (body : Template) :
    (guard test body).columnMaps = body.columnMaps := rfl

@[simp]
theorem columnMaps_loop (settings : List (LoopSetting × String)) (body : Template) :
    (loop settings body).columnMaps = body.columnMaps := rfl

@[simp]
theorem columnMaps_whereClause (body : Template) :
    (whereClause body).columnMaps = body.columnMaps := rfl

/-- A sequence has the column maps of its templates. -/
theorem columnMaps_concat (ts : List Template) :
    (concat ts).columnMaps = ts.flatMap columnMaps :=
  collect_concat rfl ts

/-- Joined templates have the column maps of each. -/
theorem columnMaps_join (separator : String) (ts : List Template) :
    (join separator ts).columnMaps = ts.flatMap columnMaps :=
  collect_join rfl rfl ts

@[simp]
theorem patternNames_append (first second : Template) :
    (first ++ second).patternNames = first.patternNames ++ second.patternNames := rfl

@[simp]
theorem patternNames_text (sql : String) : (text sql).patternNames = [] := rfl

@[simp]
theorem patternNames_cdata (sql : String) : (cdata sql).patternNames = [] := rfl

@[simp]
theorem patternNames_value (path : String) (type? : Option JdbcType) :
    (value path type?).patternNames = [] := rfl

@[simp]
theorem patternNames_pattern (name path : String) (leading trailing : Bool) :
    (bind name (.pattern leading path trailing)).patternNames = [name] := rfl

@[simp]
theorem patternNames_guard (test : Test) (body : Template) :
    (guard test body).patternNames = body.patternNames := rfl

@[simp]
theorem patternNames_loop (settings : List (LoopSetting × String)) (body : Template) :
    (loop settings body).patternNames = body.patternNames := rfl

/-- A sequence declares the patterns of its templates. -/
theorem patternNames_concat (ts : List Template) :
    (concat ts).patternNames = ts.flatMap patternNames :=
  collect_concat rfl ts

end Template

/-! ## Restrictions of a search -/

namespace Generation

variable {t : Template}

/-- A bound value has no column map. -/
theorem columnMaps_boundValue (path : String) (rule : CaseRule) (lowercase : String) :
    (boundValue path rule lowercase).columnMaps = [] := by
  unfold boundValue
  split <;> simp

/-- The right side of a comparison has no column map. -/
theorem columnMaps_rightSide {c : Comparison} {rule : CaseRule} {operands : List String}
    {index : Nat} {lowercase : String} (h : rightSide? c rule operands index lowercase = some t) :
    t.columnMaps = [] := by
  cases c <;> cases h <;> simp [columnMaps_boundValue, pattern, valueList]

/-- A predicate has no column map. -/
theorem columnMaps_predicate (p : Property) (c : Condition) (index : Nat) (d : Dialect) :
    (predicate p c index d).columnMaps = [] := by
  have hoperator : (operatorSegment c.comparison).columnMaps = [] := by
    rcases operatorSegment_cases c.comparison with h | h <;> rw [h] <;> rfl
  unfold predicate
  split
  · next hright => simp [leftSide_eq_text, hoperator, columnMaps_rightSide hright]
  · simp [leftSide_eq_text, hoperator]

section Items

variable {e : Entity} {d : Dialect} {index : Nat} {conditions : List (Property × Condition)}
  {items : List Template}

/-- The guarded predicates are made one by one, each for its place. -/
theorem conditionItems_eq_ok : conditionItems e d index conditions = .ok items ↔
    (conditions.zipIdx index).map (fun pc => conditionItem e pc.1.1 pc.1.2 pc.2 d) =
      items.map .ok := by
  rw [← mapM_eq_ok]
  suffices hmapM : conditionItems e d index conditions =
      (conditions.zipIdx index).mapM fun pc => conditionItem e pc.1.1 pc.1.2 pc.2 d by rw [hmapM]
  induction conditions generalizing index with
  | nil => rfl
  | cons pc rest ih => rw [conditionItems, List.zipIdx_cons, List.mapM_cons, ih]

/-- There is one item for each condition. -/
theorem length_conditionItems (h : conditionItems e d index conditions = .ok items) :
    items.length = conditions.length := by
  simpa using (congrArg List.length (conditionItems_eq_ok.mp h)).symm

/-- The guarded predicate at a place is that of the condition there. -/
theorem conditionItems_getElem? (h : conditionItems e d index conditions = .ok items) (i : Nat) :
    conditions[i]?.map (fun pc => conditionItem e pc.1 pc.2 (index + i) d) =
      items[i]?.map .ok := by
  have hplace := congrArg (·[i]?) (conditionItems_eq_ok.mp h)
  simpa [Function.comp_def] using hplace

/-- The guarded predicates are those of the conditions. -/
theorem conditionItems_mem (h : conditionItems e d index conditions = .ok items) :
    (∀ item ∈ items, ∃ pc ∈ conditions, ∃ i, conditionItem e pc.1 pc.2 i d = .ok item) ∧
      ∀ pc ∈ conditions, ∃ item ∈ items, ∃ i, conditionItem e pc.1 pc.2 i d = .ok item := by
  have hplaces := conditionItems_getElem? h
  constructor
  · intro item hitem
    obtain ⟨i, hi⟩ := List.getElem?_of_mem hitem
    have hplace := hplaces i
    rw [hi, Option.map_some, Option.map_eq_some_iff] at hplace
    obtain ⟨pc, hpc, hmade⟩ := hplace
    exact ⟨pc, List.mem_of_getElem? hpc, _, hmade⟩
  · intro pc hpc
    obtain ⟨i, hi⟩ := List.getElem?_of_mem hpc
    have hplace := (hplaces i).symm
    rw [hi, Option.map_some, Option.map_eq_some_iff] at hplace
    obtain ⟨item, hitem, hmade⟩ := hplace
    exact ⟨item, List.mem_of_getElem? hitem, _, hmade.symm⟩

/-- The items of the conditions have no column map. -/
theorem columnMaps_conditionItems (h : conditionItems e d index conditions = .ok items) :
    items.flatMap Template.columnMaps = [] := by
  rw [List.flatMap_eq_nil_iff]
  intro item hitem
  obtain ⟨pc, _, i, hmade⟩ := (conditionItems_mem h).1 item hitem
  obtain ⟨_, _, hmade⟩ := bind_eq_ok.mp hmade
  cases hmade
  simp [columnMaps_predicate]

end Items

/-- Conditions bind patterns, but no map of columns. -/
theorem columnMaps_conditionBlock {e : Entity} {d : Dialect} (h : conditionBlock e d = .ok t) :
    t.columnMaps = [] := by
  obtain ⟨items, hitems, h⟩ := bind_eq_ok.mp h
  cases h
  rw [Template.columnMaps_guard, Template.columnMaps_concat, columnMaps_conditionItems hitems]

end Generation

namespace Generator

/-- The restriction to keys binds no map of columns. -/
theorem columnMaps_guardedKeysMatch {g : Generator} {t : Template}
    (h : g.guardedKeysMatch = .ok t) : t.columnMaps = [] := by
  have hkeys : ∀ keys, g.keysMatch = .ok keys → keys.columnMaps = [] := by
    intro keys hkeys
    unfold keysMatch at hkeys
    split at hkeys
    · cases hkeys
    · cases hkeys
      rfl
    · obtain ⟨slots, _, rfl⟩ := map_eq_ok.mp hkeys
      simp [Template.columnMaps_join]
  unfold guardedKeysMatch at h
  split at h
  · cases h
    rfl
  · obtain ⟨keys, hmatch, rfl⟩ := map_eq_ok.mp h
    simp [Generation.whenPresent, hkeys keys hmatch]

end Generator

/-- A page window binds no further map of columns. -/
theorem Dialect.columnMaps_window (d : Dialect) (query : Template) :
    (d.window query).columnMaps = query.columnMaps := by
  cases d <;> simp [Dialect.window]

end EntityMapping
