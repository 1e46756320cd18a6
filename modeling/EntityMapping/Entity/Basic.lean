import EntityMapping.Entity.Property

/-!
# Entities

An entity maps a type to a table.  Its key is one embedded value, one property, or several
properties that a key type gathers; several key properties without a key type make no key.

Main results:

- `Entity.key_eq_none_iff`, `Entity.key_simple_iff`: how the key shows in the properties.
- `Entity.keyType?_isSome`: an entity has a key type exactly when it has a key.
-/

namespace EntityMapping

/-- A mapped type. -/
structure Entity where
  typeName : String
  table : Identifier
  schema? : Option Identifier
  properties : List Property
  keyClass? : Option String
  supportsExample : Bool
  companion? : Option String
  generators : List SequenceGenerator
  embeddable : Bool
deriving DecidableEq, Repr

/-- The key of an entity. -/
inductive Key
  | none
  | simple (property : Property)
  | embedded (property : Property)
  | composite (properties : List Property) (keyClass : String)
deriving DecidableEq, Repr

namespace Entity

/-- An entity of a table, without anything else. -/
def plain (typeName table : String) : Entity :=
  { typeName
    table := .plain table
    schema? := Option.none
    properties := []
    keyClass? := Option.none
    supportsExample := false
    companion? := Option.none
    generators := []
    embeddable := false }

/-- The table with its schema as SQL text. -/
def tableName (e : Entity) (d : Dialect) : String :=
  match e.schema? with
  | some schema => schema.render d ++ "." ++ e.table.render d
  | Option.none => e.table.render d

/-- The first property with a name. -/
def property? (e : Entity) (name : String) : Option Property :=
  e.properties.find? (·.name == name)

/-- The properties marked as ids. -/
def ids (e : Entity) : List Property := e.properties.filter (·.role == .id)

/-- The key: the first embedded id, or else the ids. -/
def key (e : Entity) : Key :=
  match e.properties.find? (·.role == .embeddedId) with
  | some p => .embedded p
  | Option.none =>
    match e.ids, e.keyClass? with
    | [], _ => .none
    | [p], _ => .simple p
    | _, some keyClass => .composite e.properties keyClass
    | _, Option.none => .none

/-- The property of the key, of a composite key the first one. -/
def keyProperty? (e : Entity) : Option Property :=
  match e.key with
  | .simple p => some p
  | .embedded p => some p
  | .composite properties _ => properties.find? (·.isKey)
  | .none => Option.none

/-- The type of key values. -/
def keyType? (e : Entity) : Option String :=
  match e.key with
  | .simple p => some p.typeName
  | .embedded p => some p.typeName
  | .composite _ keyClass => some keyClass
  | .none => Option.none

/-- Whether key values have members. -/
def hasCompositeKey (e : Entity) : Bool :=
  match e.key with
  | .embedded _ => true
  | .composite _ _ => true
  | _ => false

/-! ## Laws -/

/-- Every key has a type. -/
theorem keyType?_isSome (e : Entity) : e.keyType?.isSome = true ↔ e.key ≠ .none := by
  unfold keyType?
  cases e.key <;> simp

/-- A key is simple exactly if one property is marked as an id and none as an embedded one. -/
theorem key_simple_iff (e : Entity) (p : Property) :
    e.key = .simple p ↔
      e.properties.find? (·.role == .embeddedId) = Option.none ∧ e.ids = [p] := by
  unfold key
  cases e.properties.find? (·.role == .embeddedId) with
  | some q => simp
  | none =>
    rcases e.ids with _ | ⟨q, _ | ⟨r, rest⟩⟩
    · simp
    · simp
    · cases e.keyClass? <;> simp

/-- An entity has no key if nothing is marked, or if several properties are but no key class joins
them. -/
theorem key_eq_none_iff (e : Entity) :
    e.key = .none ↔
      e.properties.find? (·.role == .embeddedId) = Option.none ∧
        (e.ids = [] ∨ 1 < e.ids.length ∧ e.keyClass? = Option.none) := by
  unfold key
  cases e.properties.find? (·.role == .embeddedId) with
  | some q => simp
  | none =>
    rcases e.ids with _ | ⟨q, _ | ⟨r, rest⟩⟩
    · simp
    · simp
    · cases e.keyClass? <;> simp

end Entity

end EntityMapping
