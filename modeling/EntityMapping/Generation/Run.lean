import EntityMapping.Generation.ExampleQuery
import EntityMapping.Generation.Insert
import EntityMapping.Generation.Select
import EntityMapping.Generation.Update

/-!
# Generation of a repository's statements

All statements are built before the first is registered, so a failure leaves the registry
alone.  A statement is left out if its id is taken, if it needs a key that the entity does
not have, or if it serves example queries that the repository does not declare.

Definitions:

- `Generator.build`: one statement, or nothing if it is left out.
- `Generator.run`: the statements of a repository and the registry with them.
-/

namespace EntityMapping

/-- What a generation added: the namespace and the statements that were registered. -/
structure Outcome where
  namespaceName : String
  statements : List Statement
deriving DecidableEq, Repr

/-- The statements of an outcome as one document. -/
def Outcome.document (o : Outcome) : String :=
  "<mapper" ++ Xml.printAttribute "namespace" o.namespaceName ++ ">" ++
    String.join (o.statements.map Statement.render) ++ "</mapper>"

namespace Generator

/-- The statement of a name, whether or not it is to be registered.  `companion` is the type
of example objects. -/
def make (g : Generator) (companion : String) : StatementName → Except MappingError Statement
  | .resultMap => g.resultMapStatement
  | .baseColumnList => g.baseColumnListStatement
  | .insertSelective => g.insertStatement true
  | .insert => g.insertStatement false
  | .updateSelectiveById => g.updateStatement true true
  | .updateSelective => g.updateStatement true false
  | .updateById => g.updateStatement false true
  | .update => g.updateStatement false false
  | .deleteById => g.deleteByIdStatement
  | .deleteByIds => g.deleteByIdsStatement
  | .deleteAll => .ok g.deleteAllStatement
  | .getById => g.getByIdStatement
  | .findByPager => g.findStatement true
  | .find => g.findStatement false
  | .countAll => .ok g.countAllStatement
  | .count => g.countStatement
  | .exampleWhereClause => .ok g.exampleWhereStatement
  | .findByExample => .ok (g.findByExampleStatement companion)

/-- The statement of a name, unless it is left out.  Example queries are checked before the
registry is asked. -/
def build (g : Generator) (r : Registry) (name : StatementName) :
    Except MappingError (Option Statement) :=
  if name.needsExample then do
    match ← g.companion? with
    | none => return none
    | some companion =>
      if g.taken r name then return none else (g.make companion name).map some
  else if g.taken r name then .ok none
  else if name.needsKey && g.entity.keyType?.isNone then .ok none
  else (g.make "" name).map some

/-- The statements of names, in order, without those left out. -/
def buildAll (g : Generator) (r : Registry) :
    List StatementName → Except MappingError (List Statement)
  | [] => .ok []
  | name :: rest => do
    let statement? ← g.build r name
    let others ← g.buildAll r rest
    return statement?.toList ++ others

/-- Build all statements and register them. -/
def run (g : Generator) (r : Registry) : Except MappingError (Outcome × Registry) := do
  let built ← g.buildAll r StatementName.all
  let (registered, after) := r.registerAll built
  return (⟨g.repository.namespaceName, registered⟩, after)

/-! ## Laws -/

end Generator

end EntityMapping
