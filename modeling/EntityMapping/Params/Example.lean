import EntityMapping.Json.Value

/-!
# Example objects

What an example query asks for: groups of criteria, of which a row satisfies all in at least
one group, whether rows are distinct, and their order.

Main results:

- `CriterionValue.json_flags`: exactly one of the four flags of a criterion is set.
-/

namespace EntityMapping

/-- The values of a criterion: none, one, two, or a list. -/
inductive CriterionValue
  | none
  | single (value : Json)
  | between (first second : Json)
  | list (values : List Json)

namespace CriterionValue

/-- The value under `value`. -/
def first : CriterionValue → Json
  | none => .null
  | single value => value
  | between first _ => first
  | list values => .array values

/-- The value under `secondValue`. -/
def second : CriterionValue → Json
  | between _ second => second
  | _ => .null

/-- Whether there are no values. -/
def isNone : CriterionValue → Bool
  | none => true
  | _ => false

/-- Whether there is one value. -/
def isSingle : CriterionValue → Bool
  | single _ => true
  | _ => false

/-- Whether there are two values. -/
def isBetween : CriterionValue → Bool
  | between _ _ => true
  | _ => false

/-- Whether there is a list of values. -/
def isList : CriterionValue → Bool
  | list _ => true
  | _ => false

/-- Exactly one of the four flags is set. -/
theorem json_flags (v : CriterionValue) :
    [v.isNone, v.isSingle, v.isBetween, v.isList].count true = 1 := by
  cases v <;> rfl

end CriterionValue

/-- A predicate of an example: its SQL text and the values after it. -/
structure Criterion where
  condition : String
  value : CriterionValue

/-- The criterion as a value. -/
def Criterion.json (c : Criterion) : Json :=
  .object
    [("condition", .string c.condition), ("value", c.value.first),
      ("secondValue", c.value.second), ("noValue", .bool c.value.isNone),
      ("singleValue", .bool c.value.isSingle), ("betweenValue", .bool c.value.isBetween),
      ("listValue", .bool c.value.isList)]

/-- Criteria that a row satisfies together. -/
abbrev CriteriaGroup := List Criterion

/-- The group as a value; a group without criteria is not valid. -/
def CriteriaGroup.json (g : CriteriaGroup) : Json :=
  .object [("criteria", .array (g.map Criterion.json)), ("valid", .bool !g.isEmpty)]

/-- An example object. -/
structure Example where
  groups : List CriteriaGroup
  distinct : Bool
  orderBy? : Option String

namespace Example

/-- The example that every row satisfies. -/
def empty : Example := ⟨[], false, none⟩

/-- The example with another group after its own. -/
def orElse (e : Example) (g : CriteriaGroup) : Example := { e with groups := e.groups ++ [g] }

/-- The example as a value. -/
def json (e : Example) : Json :=
  .object
    [("oredCriteria", .array (e.groups.map CriteriaGroup.json)), ("distinct", .bool e.distinct),
      ("orderByClause", .ofOption .string e.orderBy?)]

end Example

end EntityMapping
