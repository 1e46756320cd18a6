import EntityMapping.Entity.Basic
import EntityMapping.SortedMap

/-!
# Catalogs and flattened columns

A catalog holds entities by type name.  The columns of an entity are flattened into slots:
one for each property of its own, and one for each member of an embedded property, under
the path `owner.member`.

Main results:

- `Catalog.slotsOf_append`: flattening works property by property.
- `Catalog.slotsOf_plain`: without embedded properties there is one slot per property.
-/

namespace EntityMapping

/-- A flattened column: the property or member that holds its value, the embedded property
that owns the member, and whether it belongs to the key. -/
structure Slot where
  member : String
  owner? : Option String
  column : Column
  isKey : Bool
deriving DecidableEq, Repr

namespace Slot

/-- The path of the value from the entity. -/
def path (s : Slot) : String :=
  match s.owner? with
  | some owner => owner ++ "." ++ s.member
  | none => s.member

/-- The name of the column as SQL text. -/
def rendered (s : Slot) (d : Dialect) : String := s.column.name.render d

end Slot

/-- Entities by type name. -/
abbrev Catalog := SortedMap String Entity

namespace Catalog

/-- Add an entity, replacing an older one of the same type. -/
def add (c : Catalog) (e : Entity) : Catalog := c.insert e.typeName e

/-- The entity of a type that must be there. -/
def required (c : Catalog) (typeName : String) : Except MappingError Entity :=
  match c.get? typeName with
  | some e => .ok e
  | none => .error (.unknownEntity typeName)

/-- The slots of one property. -/
def slotsOfProperty (c : Catalog) (p : Property) : Except MappingError (List Slot) :=
  if p.isEmbedded then
    (c.required p.typeName).map fun e =>
      e.properties.map fun member =>
        ⟨member.name, some p.name, member.column, p.role == .embeddedId⟩
  else .ok [⟨p.name, none, p.column, p.isKey⟩]

/-- The slots of properties, in order. -/
def slotsOf (c : Catalog) : List Property → Except MappingError (List Slot)
  | [] => .ok []
  | p :: rest => do
    let slots ← c.slotsOfProperty p
    let others ← slotsOf c rest
    return slots ++ others

/-- The slots of an entity, in the order of its properties. -/
def slots (c : Catalog) (e : Entity) : Except MappingError (List Slot) :=
  c.slotsOf e.properties

/-! ## Laws -/

/-- The columns of joined lists of properties are joined, and the first fault counts. -/
theorem slotsOf_append (c : Catalog) (ps qs : List Property) :
    c.slotsOf (ps ++ qs) = (do
      let first ← c.slotsOf ps
      let others ← c.slotsOf qs
      return first ++ others) := by
  induction ps with
  | nil => cases h : c.slotsOf qs <;> simp [slotsOf, bind, Except.bind, pure, Except.pure, h]
  | cons p rest ih =>
    simp only [List.cons_append, slotsOf, ih]
    cases c.slotsOfProperty p with
    | error e => rfl
    | ok slots =>
      cases c.slotsOf rest with
      | error e => rfl
      | ok others =>
        cases c.slotsOf qs <;> simp [bind, Except.bind, pure, Except.pure]

/-- Without embedded properties every property has just its own column. -/
theorem slotsOf_plain (c : Catalog) {ps : List Property}
    (h : ∀ p ∈ ps, p.isEmbedded = false) :
    c.slotsOf ps = .ok (ps.map fun p => ⟨p.name, none, p.column, p.isKey⟩) := by
  induction ps with
  | nil => rfl
  | cons p rest ih =>
    have hp := h p (List.mem_cons_self ..)
    have hrest := ih fun q hq => h q (List.mem_cons_of_mem _ hq)
    simp [slotsOf, slotsOfProperty, hp, hrest, bind, Except.bind, pure, Except.pure]

end Catalog

end EntityMapping
