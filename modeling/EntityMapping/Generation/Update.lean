import EntityMapping.Generation.KeyMatch

/-!
# Updates and deletions

The statements that change or delete rows by their key, and the one that deletes all.

Definitions:

- `Generator.updateStatement`: the four updates.
- `Generator.deleteByIdStatement`, `Generator.deleteByIdsStatement`,
  `Generator.deleteAllStatement`: the deletions.
-/

namespace EntityMapping.Generator

open Generation

/-! ## Updates -/

/-- The name of an update. -/
def updateName (selective byId : Bool) : StatementName :=
  match selective, byId with
  | true, true => .updateSelectiveById
  | true, false => .updateSelective
  | false, true => .updateById
  | false, false => .update

/-- The assignment of the entity's value to a column. -/
def assignment (g : Generator) (s : Slot) : Template :=
  .text (g.column s ++ "=") ++ typedValue (Parameter.entity.member s.path) s.column

/-- The assignments of the slots: all of them, or those whose values are not null. -/
def assignments (g : Generator) (selective : Bool) (slots : List Slot) : Template :=
  if selective then
    .concat (slots.map fun s =>
      whenPresent (Parameter.entity.member s.path) (g.assignment s ++ .text ","))
  else .join "," (slots.map g.assignment)

/-- The update of the row of an entity, or of the row with a given id. -/
def updateStatement (g : Generator) (selective byId : Bool) : Except MappingError Statement := do
  let condition ← g.keyMatch (if byId then .id else .entity)
  let slots ← g.slots
  let changed := slots.filter fun s => !s.isKey
  let body :=
    .text ("update " ++ g.table ++ " ") ++ .setClause (g.assignments selective changed) ++
      .text " where " ++ condition
  return g.statement .update (updateName selective byId) body

/-! ## Deletions -/

/-- The deletion of the row with a given id. -/
def deleteByIdStatement (g : Generator) : Except MappingError Statement := do
  let condition ← g.keyMatch .parameter
  return { g.statement .delete .deleteById
      (.text ("delete from " ++ g.table ++ " where ") ++ condition) with
    parameterType? := g.entity.keyType? }

/-- The deletion of the rows with given ids. -/
def deleteByIdsStatement (g : Generator) : Except MappingError Statement := do
  let condition ← g.keysMatch
  return g.statement .delete .deleteByIds
    (.text ("delete from " ++ g.table ++ " where ") ++ condition)

/-- The deletion of all rows. -/
def deleteAllStatement (g : Generator) : Statement :=
  g.statement .delete .deleteAll (.text ("delete from " ++ g.table))

end EntityMapping.Generator
