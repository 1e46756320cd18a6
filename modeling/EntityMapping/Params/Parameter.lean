/-!
# Parameters of statements

The names under which a statement finds the values of its call.

Main results:

- `Parameter.mem_all`: the list of parameters is complete.
-/

namespace EntityMapping

/-- A value of a call. -/
inductive Parameter
  | entity
  | id
  | ids
  | condition
  | sort
  | offset
  | pageSize
deriving DecidableEq, Repr

namespace Parameter

/-- All parameters, in the order in which they are written. -/
def all : List Parameter := [entity, id, ids, condition, sort, offset, pageSize]

/-- The name in statements. -/
def name : Parameter → String
  | entity => "__entity"
  | id => "__id"
  | ids => "__ids"
  | condition => "__condition"
  | sort => "__sort"
  | offset => "__offset"
  | pageSize => "__pageSize"

/-- The path of a value inside a parameter. -/
def member (p : Parameter) (path : String) : String := p.name ++ "." ++ path

/-- The list has every parameter. -/
theorem mem_all (p : Parameter) : p ∈ all := by
  cases p <;> simp [all]

end Parameter

end EntityMapping
