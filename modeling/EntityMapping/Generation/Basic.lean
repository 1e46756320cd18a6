import EntityMapping.Entity.Catalog
import EntityMapping.Params.Parameter
import EntityMapping.Statement.Name
import EntityMapping.Statement.Registry

/-!
# Generators

What the generation of a repository's statements works from, and the pieces that several
statements share.

Main results:

- `Generator.new_eq_ok_iff`: a generator needs the entity of its repository.
-/

namespace EntityMapping

/-- A repository: the namespace of its statements, the type of its entities, and whether it
declares example queries. -/
structure Repository where
  namespaceName : String
  domain : String
  exampleQuery : Bool
deriving DecidableEq, Repr

/-- The generation of the statements of one repository. -/
structure Generator where
  catalog : Catalog
  dialect : Dialect
  repository : Repository
  entity : Entity
  defaultSequence : String

namespace Generator

/-- The generator of a repository over a catalog. -/
def new (catalog : Catalog) (dialect : Dialect) (repository : Repository)
    (defaultSequence : String) : Except MappingError Generator :=
  (catalog.required repository.domain).map fun entity =>
    { catalog, dialect, repository, entity, defaultSequence }

/-- The table of the entity. -/
def table (g : Generator) : String := g.entity.tableName g.dialect

/-- The slots of the entity. -/
def slots (g : Generator) : Except MappingError (List Slot) := g.catalog.slots g.entity

/-- A slot's column as SQL text. -/
def column (g : Generator) (s : Slot) : String := s.rendered g.dialect

/-- A statement of the repository. -/
def statement (g : Generator) (kind : StatementKind) (name : StatementName) (body : Template) :
    Statement :=
  .plain kind g.repository.namespaceName name.id body

/-- Whether a statement is in the registry already. -/
def taken (g : Generator) (r : Registry) (name : StatementName) : Bool :=
  r.contains ⟨g.repository.namespaceName, name.id⟩

/-- Statements can be generated for a repository exactly if its entity is registered. -/
theorem new_eq_ok_iff (catalog : Catalog) (dialect : Dialect) (repository : Repository)
    (defaultSequence : String) :
    (∃ g, new catalog dialect repository defaultSequence = .ok g) ↔
      catalog.contains repository.domain = true := by
  unfold new Catalog.required SortedMap.contains
  cases catalog.get? repository.domain <;> simp [Except.map]

end Generator

/-! ## Shared pieces -/

namespace Generation

/-- The value at a path with the type of its column. -/
def typedValue (path : String) (column : Column) : Template := .value path (some column.type)

/-- A template that counts if a value is not null. -/
def whenPresent (path : String) (body : Template) : Template := .guard (.notNull [path]) body

end Generation

end EntityMapping
