import EntityMapping.Entity.Catalog
import EntityMapping.Params.Parameter
import EntityMapping.Template.Printer

/-!
# Condition predicates

The predicates that the conditions of an entity add to a search.  Each is guarded by the
presence of its operands in the search object; conditions are counted over the whole entity,
so that the names bound for patterns stay apart.

Main results:

- `operator_isPattern`: exactly the pattern comparisons use `like`.
- `leftSide_eq_text`, `operatorSegment_cases`: what stands in front of a right side is text.
- `checkArity_eq_ok_iff`: when the operands fit a comparison.
-/

namespace EntityMapping.Generation

/-! ## Operators -/

/-- The SQL operator of a comparison. -/
def operator : Comparison → String
  | .simpleProperty => "="
  | .negatingSimpleProperty => "<>"
  | .lessThan => "<"
  | .before => "<"
  | .lessThanEqual => "<="
  | .greaterThan => ">"
  | .after => ">"
  | .greaterThanEqual => ">="
  | .between => " between "
  | .like => " like "
  | .startingWith => " like "
  | .endingWith => " like "
  | .containing => " like "
  | .notLike => " not like "
  | .notContaining => " not like "
  | .isIn => " in "
  | .notIn => " not in "
  | .isNull => " is null"
  | .isNotNull => " is not null"
  | .isTrue => " = true"
  | .isFalse => " = false"

/-- Text of a statement, as character data if it holds an opening angle bracket. -/
def characterData (sql : String) : Template :=
  if '<' ∈ sql.toList then .cdata sql else .text sql

/-- The operator of a comparison as it stands in a statement. -/
def operatorSegment (c : Comparison) : Template := characterData (operator c)

/-- An operator is written as plain text or as unparsed text. -/
theorem operatorSegment_cases (c : Comparison) :
    operatorSegment c = .text (operator c) ∨ operatorSegment c = .cdata (operator c) := by
  unfold operatorSegment characterData
  split
  · exact .inr rfl
  · exact .inl rfl

/-- A comparison takes a pattern exactly if its operator is one of the two of patterns. -/
theorem operator_isPattern (c : Comparison) :
    c.isPattern = true ↔ operator c = " like " ∨ operator c = " not like " := by
  cases c <;> decide

/-! ## Operands -/

/-- The operands of a condition: those it declares, or else its property. -/
def operands (p : Property) (c : Condition) : List String :=
  if c.operands.isEmpty then [p.name] else c.operands

/-- A condition has operands. -/
theorem operands_ne_nil (p : Property) (c : Condition) : operands p c ≠ [] := by
  unfold operands
  split
  · exact List.cons_ne_nil _ _
  · next h => simpa using h

/-- Check that a comparison has as many operands as it takes; one that takes none accepts
any number. -/
def checkArity (e : Entity) (p : Property) (c : Comparison) (actual : Nat) :
    Except MappingError Unit :=
  if c.arity ≠ 0 ∧ c.arity ≠ actual then
    .error (.conditionArity e.typeName p.name c.name c.arity actual)
  else .ok ()

/-- Any number of operands suits a comparison without an arity, and one number every other. -/
theorem checkArity_eq_ok_iff (e : Entity) (p : Property) (c : Comparison) (actual : Nat) :
    checkArity e p c actual = .ok () ↔ c.arity = 0 ∨ c.arity = actual := by
  unfold checkArity
  split
  · next h => simp [h.1, h.2]
  · next h =>
    simp only [true_iff]
    by_cases h0 : c.arity = 0
    · exact .inl h0
    · exact .inr (Decidable.not_not.mp fun h1 => h ⟨h0, h1⟩)

/-! ## Sides -/

/-- The left side: the column, folded if the letter case is ignored. -/
def leftSide (column : String) (rule : CaseRule) (lowercase : String) : Template :=
  if rule.folds then .text (lowercase ++ "(" ++ column ++ ")") else .text column

/-- The left side is the column, folded if the rule of the letter case says so. -/
theorem leftSide_eq_text (column : String) (rule : CaseRule) (lowercase : String) :
    leftSide column rule lowercase =
      .text (if rule.folds then lowercase ++ "(" ++ column ++ ")" else column) := by
  unfold leftSide
  split <;> rfl

/-- A bound value, folded if the letter case is ignored. -/
def boundValue (path : String) (rule : CaseRule) (lowercase : String) : Template :=
  if rule.folds then .text (lowercase ++ "(") ++ .value path none ++ .text ")"
  else .value path none

/-- The name bound for the pattern of a condition. -/
def bindName (index : Nat) (operand : String) : String :=
  "__bind_" ++ toString index ++ "_" ++ Text.underscored ['.'] operand

/-- A pattern of an operand and wildcards, bound to a name and used. -/
def pattern (leading trailing : Bool) (operand : String) (index : Nat) (rule : CaseRule)
    (lowercase : String) : Template :=
  let name := bindName index operand
  .bind name (.pattern leading (Parameter.condition.member operand) trailing) ++
    boundValue name rule lowercase

/-- The list of the values of an operand. -/
def valueList (operand : String) (rule : CaseRule) (lowercase : String) : Template :=
  .loop
    [(.item, "__item"), (.index, "__index"), (.collection, Parameter.condition.member operand),
      (.opening, "("), (.separator, ","), (.closing, ")")]
    (boundValue "__item" rule lowercase)

/-- The right side of a comparison, unless it takes no operand. -/
def rightSide? (c : Comparison) (rule : CaseRule) (operands : List String) (index : Nat)
    (lowercase : String) : Option Template :=
  let first := operands.head?.getD ""
  let second := (operands[1]?).getD ""
  let operand (path : String) := boundValue (Parameter.condition.member path) rule lowercase
  match c with
  | .between => some (operand first ++ .text " and " ++ operand second)
  | .isNull => none
  | .isNotNull => none
  | .isTrue => none
  | .isFalse => none
  | .startingWith => some (pattern false true first index rule lowercase)
  | .endingWith => some (pattern true false first index rule lowercase)
  | .containing => some (pattern true true first index rule lowercase)
  | .notContaining => some (pattern true true first index rule lowercase)
  | .isIn => some (valueList first rule lowercase)
  | .notIn => some (valueList first rule lowercase)
  | _ => some (operand first)

/-! ## Predicates -/

/-- The SQL text that a condition compares: its own, or else the column of the property. -/
def comparedColumn (p : Property) (c : Condition) (d : Dialect) : String :=
  match c.column? with
  | some column => if column = "" then p.column.name.render d else column
  | none => p.column.name.render d

/-- The comparison of a condition. -/
def predicate (p : Property) (c : Condition) (index : Nat) (d : Dialect) : Template :=
  let left := leftSide (comparedColumn p c d) c.caseRule d.lowercase
  let comparison := left ++ .text " " ++ operatorSegment c.comparison
  match rightSide? c.comparison c.caseRule (operands p c) index d.lowercase with
  | some right => comparison ++ .text " " ++ right
  | none => comparison

/-- The test that the operands of a condition are present. -/
def operandTest (p : Property) (c : Condition) : Test :=
  .notNull ((operands p c).map Parameter.condition.member)

/-- The guarded predicate of a condition. -/
def conditionItem (e : Entity) (p : Property) (c : Condition) (index : Nat) (d : Dialect) :
    Except MappingError Template := do
  checkArity e p c.comparison (operands p c).length
  return .guard (operandTest p c) (.text " and " ++ predicate p c index d)

/-- The conditions of an entity with their properties, in order. -/
def conditionsOf (e : Entity) : List (Property × Condition) :=
  e.properties.flatMap fun p => p.conditions.map fun c => (p, c)

/-- The guarded predicates of conditions counted from `index` on. -/
def conditionItems (e : Entity) (d : Dialect) :
    Nat → List (Property × Condition) → Except MappingError (List Template)
  | _, [] => .ok []
  | index, (p, c) :: rest => do
    let item ← conditionItem e p c index d
    let items ← conditionItems e d (index + 1) rest
    return item :: items

/-- The guarded predicates of all conditions, if there is a search object. -/
def conditionBlock (e : Entity) (d : Dialect) : Except MappingError Template := do
  let items ← conditionItems e d 0 (conditionsOf e)
  return .guard (.notNull [Parameter.condition.name]) (.concat items)

end EntityMapping.Generation
