import EntityMapping.Generation.Basic

/-!
# Result maps and column lists

How rows are read back into entities, and the columns of a row.

Definitions:

- `Generator.resultMapStatement`: plain properties first, then embedded ones.
- `Generator.baseColumnListStatement`: the columns in the order of the slots.
-/

namespace EntityMapping

namespace Generation

/-- How the column of a property is read back. -/
def resultOf (isKey : Bool) (p : Property) : Template :=
  .result isKey p.name p.column.name.text p.column.type

/-- How the members of an embedded property are read back.  All members of an embedded id
belong to the key. -/
def associationOf (p : Property) (e : Entity) : Template :=
  .association p.name
    (.concat (e.properties.map fun member =>
      resultOf (p.role == .embeddedId || member.isKey) member))

/-- How the embedded properties among those given are read back, in order. -/
def associations (c : Catalog) : List Property → Except MappingError (List Template)
  | [] => .ok []
  | p :: rest =>
    if p.isEmbedded then do
      let e ← c.required p.typeName
      let others ← associations c rest
      return associationOf p e :: others
    else associations c rest

/-- How the properties that are not embedded are read back, in order. -/
def results (properties : List Property) : List Template :=
  (properties.filter fun p => !p.isEmbedded).map fun p => resultOf p.isKey p

end Generation

namespace Generator

open Generation

/-- The result map of the entity. -/
def resultMapStatement (g : Generator) : Except MappingError Statement := do
  let embedded ← associations g.catalog g.entity.properties
  let body := Template.concat (results g.entity.properties) ++ Template.concat embedded
  return { g.statement .resultMap .resultMap body with resultType? := some g.entity.typeName }

/-- The columns of the slots, separated by commas. -/
def columnList (g : Generator) (slots : List Slot) : String :=
  String.intercalate "," (slots.map g.column)

/-- The list of all columns. -/
def baseColumnListStatement (g : Generator) : Except MappingError Statement := do
  let slots ← g.slots
  return g.statement .sql .baseColumnList (.text (g.columnList slots))

end Generator

end EntityMapping
