import EntityMapping.Generation.Basic

/-!
# Example queries

The statements that search by an example object: groups of criteria, of which a row
satisfies all in at least one group.

Definitions:

- `exampleWhere`: the condition that an example object describes.
- `Generator.companion?`: the companion type of an entity with example queries.
- `Generator.exampleWhereStatement`, `Generator.findByExampleStatement`: the statements.
-/

namespace EntityMapping

namespace Generation

/-- A criterion's condition after `and`. -/
def criterionCondition : Template := .text " and " ++ .splice "criterion.condition"

/-- The alternatives of a criterion: without a value, with one, with two, with a list. -/
def criterionBranches : Template :=
  .branch (.holds "criterion.noValue") criterionCondition ++
    .branch (.holds "criterion.singleValue")
      (criterionCondition ++ .text " " ++ .value "criterion.value" none) ++
    .branch (.holds "criterion.betweenValue")
      (criterionCondition ++ .text " " ++ .value "criterion.value" none ++ .text " and " ++
        .value "criterion.secondValue" none) ++
    .branch (.holds "criterion.listValue")
      (criterionCondition ++
        .loop
          [(.closing, ")"), (.collection, "criterion.value"), (.item, "listItem"),
            (.opening, "("), (.separator, ",")]
          (.value "listItem" none))

/-- The criteria of a group in brackets. -/
def criteriaGroup : Template :=
  .trim [(.front, "("), (.frontDropped, "and"), (.back, ")")]
    (.loop [(.collection, "criteria.criteria"), (.item, "criterion")] (.choose criterionBranches))

/-- The condition that an example object describes. -/
def exampleWhere : Template :=
  .whereClause
    (.loop [(.collection, "oredCriteria"), (.item, "criteria"), (.separator, "or")]
      (.guard (.holds "criteria.valid") criteriaGroup))

end Generation

namespace Generator

open Generation

/-- The companion type of the entity, if the repository declares example queries.  The entity
must then carry the example marker and know its companion. -/
def companion? (g : Generator) : Except MappingError (Option String) :=
  if !g.repository.exampleQuery then .ok none
  else if !g.entity.supportsExample then
    .error (.missingExampleMarker g.repository.namespaceName g.entity.typeName)
  else
    match g.entity.companion? with
    | some companion => .ok (some companion)
    | none =>
      .error (.missingExampleCompanion g.entity.typeName (g.entity.typeName ++ "Example"))

/-- The condition of example queries. -/
def exampleWhereStatement (g : Generator) : Statement :=
  g.statement .sql .exampleWhereClause exampleWhere

/-- The search by example. -/
def findByExampleStatement (g : Generator) (companion : String) : Statement :=
  { g.statement .select .findByExample
      (.text "select " ++ .guard (.holds "distinct") (.text "distinct") ++ .text " " ++
        .fragment StatementName.baseColumnList.id ++ .text (" from " ++ g.table ++ " ") ++
        .guard (.notNull ["_parameter"]) (.fragment StatementName.exampleWhereClause.id) ++
        .guard (.notNull ["orderByClause"])
          (.text " order by " ++ .splice "orderByClause" ++ .text " ")) with
    parameterType? := some companion
    resultMap? := some StatementName.resultMap.id }

end Generator

end EntityMapping
