import EntityMapping.Result.Conversion

/-!
# Queries

A query calls a statement of a namespace in a session, which runs it against a database, and
converts what comes back.

Definitions:

- `Session.answer`: what a session gives for a call.
- `Query.execute`: what a query gives.
-/

namespace EntityMapping

/-- How a call is run: for at most one row, or for its effect on rows. -/
inductive Execution
  | singleEntity
  | modifying
deriving DecidableEq, Repr

/-- A call of a statement with its parameter. -/
structure Call where
  execution : Execution
  statement : String
  parameter : Json

/-- What runs statements: it gives the row that a statement finds, or the number of rows
that it changes. -/
structure Session where
  selectOne : String → Json → Except MappingError (Option QueryResult)
  update : String → Json → Except MappingError Nat

/-- The answer of a session to a call. -/
def Session.answer (s : Session) (c : Call) : Except MappingError QueryResult :=
  match c.execution with
  | .singleEntity =>
    (s.selectOne c.statement c.parameter).map fun found => found.getD (.value .null)
  | .modifying =>
    (s.update c.statement c.parameter).map fun rows => .value (.int rows)

/-- A query: a statement of a namespace, whether it changes rows, and what it returns. -/
structure Query where
  namespaceName : String
  statementId : String
  isModifying : Bool
  returns : ReturnType
deriving DecidableEq, Repr

namespace Query

/-- The name of the statement together with its namespace. -/
def statement (q : Query) : String := q.namespaceName ++ "." ++ q.statementId

/-- How the query is run. -/
def execution (q : Query) : Execution := if q.isModifying then .modifying else .singleEntity

/-- The call that the query makes. -/
def call (q : Query) (parameter : Json) : Call := ⟨q.execution, q.statement, parameter⟩

/-- Run the query and convert its answer. -/
def execute (q : Query) (s : Session) (parameter : Json) : Except MappingError QueryResult :=
  (s.answer (q.call parameter)).map (QueryResult.convert q.returns)

end Query

/-! ## Laws -/

end EntityMapping
