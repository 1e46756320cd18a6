import EntityMapping.Declaration.EntityPlan
import EntityMapping.Entity.Basic

/-!
# Builder chains

An entity as a chain of builder calls.  A chain can be made from a plan and has a meaning of
its own, which is the entity that the calls build one after the other.

Definitions:

- `PropertyChain`, `EntityChain`: the calls of a builder.
- `FieldPlan.chain`, `EntityPlan.chain`: the calls for which a plan stands.
- `PropertyChain.build`, `EntityChain.build`: what the calls build.
-/

namespace EntityMapping.Declaration

/-! ## Names of types -/

/-- How names that a declaration spells are known to the running program: the full name of a
type, that of the declared type itself, and the path of the module. -/
structure Naming where
  fullName : Tokens → String
  selfName : String
  modulePath : String

/-! ## Properties -/

/-- A call that adds to a property. -/
inductive PropertyCall
  | generated (g : KeyGeneration)
  | sequenceGenerator (g : SequenceGenerator)
  | condition (c : Condition)
deriving DecidableEq, Repr

/-- A property as a chain of calls. -/
structure PropertyChain where
  role : Role
  name : String
  type : Tokens
  column : Column
  calls : List PropertyCall
deriving DecidableEq, Repr

/-- The property after a call. -/
def PropertyCall.apply (p : Property) : PropertyCall → Property
  | generated g => { p with generated? := some g }
  | sequenceGenerator g => { p with generators := p.generators ++ [g] }
  | condition c => { p with conditions := p.conditions ++ [c] }

/-- The property that a chain builds. -/
def PropertyChain.build (n : Naming) (c : PropertyChain) : Property :=
  c.calls.foldl PropertyCall.apply (.plain c.role c.name (n.fullName c.type) c.column)

/-- The chain of a field. -/
def FieldPlan.chain (f : FieldPlan) : PropertyChain :=
  { role := f.role
    name := f.name
    type := f.type
    column := ⟨⟨f.columnName, f.column.quoted⟩, f.columnType⟩
    calls :=
      (f.generated?.map .generated).toList ++ f.generators.map .sequenceGenerator ++
        f.conditions.map .condition }

/-! ## Entities -/

/-- A call that adds to an entity. -/
inductive EntityCall
  | schema (name : String)
  | quotedTable
  | sequenceGenerator (g : SequenceGenerator)
  | property (p : PropertyChain)
  | idClass (path : Tokens)
  | isExample
  | exampleCompanion (name : String)
  | embeddable
deriving DecidableEq, Repr

/-- An entity as a chain of calls. -/
structure EntityChain where
  table : String
  calls : List EntityCall
deriving DecidableEq, Repr

/-- The entity after a call. -/
def EntityCall.apply (n : Naming) (e : Entity) : EntityCall → Entity
  | schema name => { e with schema? := some (.plain name) }
  | quotedTable => { e with table := { e.table with quoted := true } }
  | sequenceGenerator g => { e with generators := e.generators ++ [g] }
  | property p => { e with properties := e.properties ++ [p.build n] }
  | idClass path => { e with keyClass? := some (n.fullName path) }
  | isExample => { e with supportsExample := true }
  | exampleCompanion name => { e with companion? := some (n.modulePath ++ "::" ++ name) }
  | embeddable => { e with embeddable := true }

/-- The entity that a chain builds. -/
def EntityChain.build (n : Naming) (c : EntityChain) : Entity :=
  c.calls.foldl (EntityCall.apply n) (.plain n.selfName c.table)

/-- Calls that are made if a condition holds. -/
def callsIf (holds : Bool) (calls : List EntityCall) : List EntityCall :=
  if holds then calls else []

/-- The chain of an entity. -/
def EntityPlan.chain (p : EntityPlan) : EntityChain :=
  { table := p.table
    calls :=
      (p.schema?.map .schema).toList ++ callsIf p.quoted [.quotedTable] ++
        p.generators.map .sequenceGenerator ++ p.fields.map (fun f => .property f.chain) ++
        (p.keyClass?.map .idClass).toList ++
        callsIf p.isExample [.isExample, .exampleCompanion p.exampleName] ++
        callsIf p.embeddable [.embeddable] }

/-! ## Laws -/

end EntityMapping.Declaration
