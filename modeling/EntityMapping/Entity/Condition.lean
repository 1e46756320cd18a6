import EntityMapping.Error
import EntityMapping.Text.Blank
import EntityMapping.Text.LetterCase

/-!
# Conditions

A condition on a property compares its column with operands of the search object.  It only
takes effect when all of its operands are present.

Main results:

- `Comparison.mem_all`: the list of comparisons is complete.
- `Comparison.find?_name`, `Comparison.name_injective`: a name determines its comparison.
-/

namespace EntityMapping

/-! ## Comparisons -/

/-- How a column is compared with operands. -/
inductive Comparison
  | simpleProperty
  | negatingSimpleProperty
  | lessThan
  | lessThanEqual
  | greaterThan
  | greaterThanEqual
  | before
  | after
  | between
  | like
  | notLike
  | startingWith
  | endingWith
  | containing
  | notContaining
  | isIn
  | notIn
  | isNull
  | isNotNull
  | isTrue
  | isFalse
deriving DecidableEq, Repr

namespace Comparison

/-- All comparisons, in their usual order. -/
def all : List Comparison :=
  [simpleProperty, negatingSimpleProperty, lessThan, lessThanEqual, greaterThan,
    greaterThanEqual, before, after, between, like, notLike, startingWith, endingWith, containing,
    notContaining, isIn, notIn, isNull, isNotNull, isTrue, isFalse]

/-- The name in upper case. -/
def name : Comparison → String
  | simpleProperty => "SIMPLE_PROPERTY"
  | negatingSimpleProperty => "NEGATING_SIMPLE_PROPERTY"
  | lessThan => "LESS_THAN"
  | lessThanEqual => "LESS_THAN_EQUAL"
  | greaterThan => "GREATER_THAN"
  | greaterThanEqual => "GREATER_THAN_EQUAL"
  | before => "BEFORE"
  | after => "AFTER"
  | between => "BETWEEN"
  | like => "LIKE"
  | notLike => "NOT_LIKE"
  | startingWith => "STARTING_WITH"
  | endingWith => "ENDING_WITH"
  | containing => "CONTAINING"
  | notContaining => "NOT_CONTAINING"
  | isIn => "IN"
  | notIn => "NOT_IN"
  | isNull => "IS_NULL"
  | isNotNull => "IS_NOT_NULL"
  | isTrue => "TRUE"
  | isFalse => "FALSE"

/-- The number of operands; none means that operands are only tested for presence. -/
def arity : Comparison → Nat
  | between => 2
  | isNull => 0
  | isNotNull => 0
  | isTrue => 0
  | isFalse => 0
  | _ => 1

/-- Whether the operand is a pattern. -/
def isPattern : Comparison → Bool
  | like => true
  | notLike => true
  | startingWith => true
  | endingWith => true
  | containing => true
  | notContaining => true
  | _ => false

/-- The comparison with a short name. -/
def ofShortName? (text : String) : Option Comparison :=
  if text = "EQ" then some simpleProperty
  else if text = "NE" then some negatingSimpleProperty
  else if text = "LT" then some lessThan
  else if text = "LTE" then some lessThanEqual
  else if text = "GT" then some greaterThan
  else if text = "GTE" then some greaterThanEqual
  else none

/-- The comparison named in metadata: trimmed, in any letter case, with spaces or dashes for
underscores; six comparisons have a short name too. -/
def ofText (text : String) : Except MappingError Comparison :=
  let wanted := Text.underscored [' ', '-'] (Text.upper (Text.trim text))
  match (ofShortName? wanted).or (all.find? (·.name == wanted)) with
  | some comparison => .ok comparison
  | none => .error (.invalidSettings ("unknown condition type: " ++ text))

/-- The list has every comparison. -/
theorem mem_all (c : Comparison) : c ∈ all := by
  cases c <;> simp [all]

/-- A comparison is found by its name. -/
theorem find?_name (c : Comparison) : all.find? (·.name == c.name) = some c := by
  cases c <;> decide

/-- Comparisons have different names. -/
theorem name_injective {a b : Comparison} (h : a.name = b.name) : a = b :=
  Option.some.inj ((find?_name a).symm.trans (h ▸ find?_name b))

end Comparison

/-! ## Letter case -/

/-- Whether a comparison ignores letter case. -/
inductive CaseRule
  | never
  | always
  | whenPossible
deriving DecidableEq, Repr

namespace CaseRule

/-- Whether both sides are folded. -/
def folds : CaseRule → Bool
  | never => false
  | always => true
  | whenPossible => true

/-- The rule named in metadata: trimmed, in any letter case, with dashes or spaces for
underscores. -/
def ofText (text : String) : Except MappingError CaseRule :=
  let wanted := Text.underscored ['-', ' '] (Text.lower (Text.trim text))
  if wanted = "never" then .ok never
  else if wanted = "always" then .ok always
  else if wanted = "when_possible" then .ok whenPossible
  else .error (.invalidSettings ("unknown ignore case type: " ++ text))

end CaseRule

/-! ## Conditions -/

/-- A condition on a property: the comparison, its letter case rule, SQL text that stands in
for the column, and the operands, which default to the property itself. -/
structure Condition where
  comparison : Comparison
  caseRule : CaseRule
  column? : Option String
  operands : List String
deriving DecidableEq, Repr

/-- A condition with nothing but its comparison. -/
def Condition.plain (comparison : Comparison) : Condition := ⟨comparison, .never, none, []⟩

end EntityMapping
