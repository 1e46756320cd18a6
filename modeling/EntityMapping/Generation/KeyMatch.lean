import EntityMapping.Generation.Basic

/-!
# Matching rows by key

The conditions that single out the row of one key, or the rows of several.

Definitions:

- `KeySource.path`: where a statement finds a key value.
- `Generator.keyMatch`, `Generator.keysMatch`: the row of a key, the rows of keys.
- `Generator.guardedKeysMatch`: the restriction of a search to given keys.
-/

namespace EntityMapping

/-- Where a statement finds the key: the parameter itself, its id, or its entity. -/
inductive KeySource
  | parameter
  | id
  | entity
deriving DecidableEq, Repr

/-- The path of the key value of a slot.  A simple key is the id itself. -/
def KeySource.path (source : KeySource) (simple : Bool) (s : Slot) : String :=
  match source with
  | .parameter => s.member
  | .id => if simple then Parameter.id.name else Parameter.id.member s.member
  | .entity => Parameter.entity.member s.path

/-- Whether the key is a single property. -/
def Key.isSimple : Key → Bool
  | .simple _ => true
  | _ => false

namespace Generator

/-- The slots of the key. -/
def keySlots (g : Generator) : Except MappingError (List Slot) :=
  g.slots.map fun slots => slots.filter (·.isKey)

/-- The condition that a row has the key found at a source. -/
def keyMatch (g : Generator) (source : KeySource) : Except MappingError Template :=
  match g.entity.key with
  | .none => .error (.missingKey g.entity.typeName)
  | key =>
    g.keySlots.map fun slots =>
      .join " and " (slots.map fun s =>
        .text (g.column s ++ " = ") ++
          Generation.typedValue (source.path key.isSimple s) s.column)

/-- The condition that a row has one of the keys of the parameter. -/
def keysMatch (g : Generator) : Except MappingError Template :=
  match g.entity.key with
  | .none => .error (.missingKey g.entity.typeName)
  | .simple p =>
    .ok (.text (p.column.name.render g.dialect ++ " in ") ++
      .loop
        [(.collection, Parameter.ids.name), (.item, "item"), (.index, "index"), (.opening, "("),
          (.separator, ","), (.closing, ")")]
        (.value "item" none))
  | _ =>
    g.keySlots.map fun slots =>
      .loop
        [(.collection, Parameter.ids.name), (.item, "item"), (.index, "index"), (.opening, "("),
          (.separator, ") or ("), (.closing, ")")]
        (.join " and " (slots.map fun s =>
          .text (g.column s ++ " = ") ++ .value ("item." ++ s.member) none))

/-- The condition that a row has one of the keys, if keys are given; nothing for an entity
without a key. -/
def guardedKeysMatch (g : Generator) : Except MappingError Template :=
  match g.entity.keyType? with
  | none => .ok .empty
  | some _ =>
    g.keysMatch.map fun condition =>
      Generation.whenPresent Parameter.ids.name (.text " and " ++ condition)

end Generator

end EntityMapping
