import EntityMapping.Dialect
import EntityMapping.Generation.KeyMatch
import EntityMapping.Generation.Predicate

/-!
# Searches

The statements that read one row by its key, search rows by ids and conditions in a given
order, and count rows.

Definitions:

- `Generator.getByIdStatement`: the row of a key.
- `Generator.findStatement`: the search, of a page or of everything.
- `Generator.countStatement`, `Generator.countAllStatement`: the counts.
-/

namespace EntityMapping.Generator

open Generation

/-- The type of a count. -/
def countType : String := "long"

/-- The row of a key. -/
def getByIdStatement (g : Generator) : Except MappingError Statement := do
  let condition ← g.keyMatch .parameter
  return { g.statement .select .getById
      (.text ("select * from " ++ g.table ++ " where ") ++ condition) with
    parameterType? := g.entity.keyType?
    resultMap? := some StatementName.resultMap.id }

/-- The name under which the map from paths to columns is bound. -/
def columnsName : String := "__columnsMap"

/-- The ordering that the sort parameter gives.  Its properties are looked up in the map of
all columns. -/
def orderBy (g : Generator) : Except MappingError Template := do
  let slots ← g.slots
  let ignoring : Test := .holds "item.ignoreCase"
  return .guard (.notNull [Parameter.sort.name])
    (.bind columnsName (.columns (slots.map fun s => (s.path, g.column s))) ++
      .text " order by " ++
      .loop
        [(.collection, Parameter.sort.name), (.item, "item"), (.index, "idx"), (.opening, ""),
          (.closing, ""), (.separator, ",")]
        (.guard ignoring (.text (g.dialect.lowercase ++ "(")) ++
          .splice (columnsName ++ "[item.property]") ++
          .guard ignoring (.text ")") ++
          .text " " ++ .splice "item.direction"))

/-- The search for rows. -/
def findQuery (g : Generator) : Except MappingError Template := do
  let keys ← g.guardedKeysMatch
  let conditions ← conditionBlock g.entity g.dialect
  let order ← g.orderBy
  return .text ("select * from " ++ g.table ++ " ") ++ .whereClause (keys ++ conditions) ++
    .text " " ++ order

/-- The search for rows, of one page if `paged`. -/
def findStatement (g : Generator) (paged : Bool) : Except MappingError Statement := do
  let query ← g.findQuery
  let name := if paged then StatementName.findByPager else .find
  let body := if paged then g.dialect.window query else query
  return { g.statement .select name body with resultMap? := some StatementName.resultMap.id }

/-- The number of rows that satisfy the conditions. -/
def countStatement (g : Generator) : Except MappingError Statement := do
  let conditions ← conditionBlock g.entity g.dialect
  return { g.statement .select .count
      (.text ("select count(*) from " ++ g.table ++ " ") ++ .whereClause conditions) with
    resultType? := some countType }

/-- The number of all rows. -/
def countAllStatement (g : Generator) : Statement :=
  { g.statement .select .countAll (.text ("select count(*) from " ++ g.table)) with
    resultType? := some countType }

end EntityMapping.Generator
