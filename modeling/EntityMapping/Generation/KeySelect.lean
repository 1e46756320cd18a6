import EntityMapping.Entity.Basic
import EntityMapping.Template.Printer

/-!
# Selection of generated keys

The element that obtains the key of a new row: before the insertion from a sequence, or
after it from an identity column.

Definitions:

- `sequenceName`: the sequence that serves a key.
- `keySelect`: the element that obtains the key.
-/

namespace EntityMapping.Generation

/-- The sequence behind a generated key: the last generator with the wanted name and a
sequence, those of the property after those of the entity, or else the default. -/
def sequenceName (e : Entity) (p : Property) (g : KeyGeneration) (default : String) : String :=
  match g.generatorName? with
  | none => default
  | some name =>
    let usable := (e.generators ++ p.generators).filter (·.sequence != "")
    match usable.reverse.find? (·.name == name) with
    | some generator => generator.sequence
    | none => default

/-- The strategy with the choice of the dialect in place of `auto`. -/
def resolvedStrategy (g : KeyGeneration) (d : Dialect) : KeyStrategy :=
  match g.strategy with
  | .auto => d.nativeStrategy
  | declared => declared

/-- The SQL that obtains a generated key, and when it runs. -/
def keySql (e : Entity) (p : Property) (g : KeyGeneration) (d : Dialect) (default : String) :
    Except MappingError (String × KeyTiming) :=
  match resolvedStrategy g d with
  | .identity =>
    (d.identitySelect (e.tableName d) p.column.name.canonical).map fun sql => (sql, .after)
  | .sequence =>
    (d.sequenceNext (sequenceName e p g default)).map fun sql => (sql, .before)
  | _ => .error (.unsupportedStrategy e.typeName p.name g.strategy.name)

/-- The element that obtains a generated key, and when it runs. -/
def keySelect (e : Entity) (p : Property) (g : KeyGeneration) (d : Dialect) (default : String) :
    Except MappingError (Template × KeyTiming) :=
  (keySql e p g d default).map fun (sql, timing) =>
    (.selectKey p.name p.column.name.text timing p.typeName (.text sql), timing)

end EntityMapping.Generation
