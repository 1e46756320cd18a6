import EntityMapping.Entity.Column
import EntityMapping.Entity.Condition

/-!
# Properties

The persistent properties of an entity.  An embedded property stands for the columns of
another entity and has only a placeholder column of its own.

Definitions:

- `Role`: what a property is to its entity.
- `Property`: a property with its column.
- `Property.placeholder`: the column of an embedded property.
-/

namespace EntityMapping

/-- The part that a property plays. -/
inductive Role
  | basic
  | id
  | embeddedId
  | embedded
deriving DecidableEq, Repr

/-- Whether the property stands for the columns of another entity. -/
def Role.isEmbedded : Role → Bool
  | .embeddedId => true
  | .embedded => true
  | _ => false

/-- Whether the property belongs to the key. -/
def Role.isKey : Role → Bool
  | .id => true
  | .embeddedId => true
  | _ => false

/-- A persistent property. -/
structure Property where
  name : String
  typeName : String
  column : Column
  role : Role
  generated? : Option KeyGeneration
  generators : List SequenceGenerator
  conditions : List Condition
deriving DecidableEq, Repr

namespace Property

/-- The column of a property that has none of its own. -/
def placeholder (name : String) : Column := ⟨.plain name, .varchar⟩

/-- A property in a role, without further settings. -/
def plain (role : Role) (name typeName : String) (column : Column) : Property :=
  { name, typeName, role
    column := if role.isEmbedded then placeholder name else column
    generated? := none
    generators := []
    conditions := [] }

/-- Whether the property stands for the columns of another entity. -/
def isEmbedded (p : Property) : Bool := p.role.isEmbedded

/-- Whether the property belongs to the key. -/
def isKey (p : Property) : Bool := p.role.isKey

end Property

end EntityMapping
