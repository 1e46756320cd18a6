import EntityMapping.Generation.KeySelect
import EntityMapping.Generation.ResultMap

/-!
# Insertions

The statements that insert an entity: all of its columns, or those whose values are not
null.  A single generated key is selected first and put back into the entity.

Definitions:

- `Generator.insertStatement`: the insertion, selective or not.
-/

namespace EntityMapping.Generator

open Generation

/-- The element that obtains the key, and where the key goes; nothing of either for an entity
without a single key property. -/
def insertKey (g : Generator) : Except MappingError (Template × Option KeyInfo) :=
  match g.entity.hasCompositeKey, g.entity.keyProperty? with
  | false, some p =>
    match p.generated? with
    | none => .ok (.empty, some ⟨p.name, p.column.name.text, false, none⟩)
    | some generation =>
      (keySelect g.entity p generation g.dialect g.defaultSequence).map fun (select, timing) =>
        (select, some ⟨p.name, p.column.name.text, true, some timing⟩)
  | _, _ => .ok (.empty, none)

/-- The insertion of all columns. -/
def insertAll (g : Generator) (slots : List Slot) : Template :=
  .text ("insert into " ++ g.table ++ " (" ++ g.columnList slots ++ ") values (") ++
    .join "," (slots.map fun s => typedValue s.path s.column) ++ .text ")"

/-- A bracketed list of items that each end in a comma. -/
def commaList (front : String) (items : List Template) : Template :=
  .trim [(.front, front), (.back, ")"), (.backDropped, ",")] (.concat items)

/-- The insertion of the columns whose values are not null. -/
def insertPresent (g : Generator) (slots : List Slot) : Template :=
  .text ("insert into " ++ g.table ++ " ") ++
    commaList "(" (slots.map fun s => whenPresent s.path (.text (g.column s ++ ","))) ++
    .text " " ++
    commaList "values("
      (slots.map fun s => whenPresent s.path (typedValue s.path s.column ++ .text ","))

/-- The insertion of an entity. -/
def insertStatement (g : Generator) (selective : Bool) : Except MappingError Statement := do
  let (select, key?) ← g.insertKey
  let slots ← g.slots
  let name := if selective then StatementName.insertSelective else .insert
  let body := if selective then g.insertPresent slots else g.insertAll slots
  return { g.statement .insert name (select ++ body) with
    parameterType? := some g.entity.typeName
    key? := key? }

end EntityMapping.Generator
