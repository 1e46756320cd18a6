import EntityMapping.Generation.Predicate
import EntityMapping.Proofs.Engine.Calls
import EntityMapping.Proofs.Fallible

/-!
# The active predicates of a search

The conditions of an entity come to one predicate each, in order, and only those whose
operands are all present in the search object come to anything.  Patterns bind names on the
way, which hide nothing that a later condition reads.

Main results:

- `bindName_plain`, `bindName_free`: the name of a pattern is a plain name and no parameter.
- `yields_predicate`: a predicate comes to its comparison with the values of its operands.
- `yields_conditionBlock`: the block comes to the predicates of the active conditions.
-/

namespace EntityMapping.Generation

/-! ## Predicates as SQL -/

/-- The value of an operand in a search object. -/
def operandValue (search : Json) (operand : String) : Json := search.follow (pathNames operand)

/-- Whether all operands of a condition are present in a search object. -/
def isActive (search : Json) (pc : Property × Condition) : Bool :=
  (operands pc.1 pc.2).all fun operand => !(operandValue search operand).isNull

/-- The left side: the column, folded if the letter case is ignored. -/
def leftSql (column : String) (rule : CaseRule) (lowercase : String) : Sql :=
  if rule.folds then Sql.text (lowercase ++ "(" ++ column ++ ")") else Sql.text column

/-- The left side is a text, folded if the rule of the letter case says so. -/
theorem leftSql_eq_text (column : String) (rule : CaseRule) (lowercase : String) :
    leftSql column rule lowercase =
      Sql.text (if rule.folds then lowercase ++ "(" ++ column ++ ")" else column) := by
  unfold leftSql
  split <;> rfl

/-- A value, folded if the letter case is ignored. -/
def boundSql (rule : CaseRule) (lowercase : String) (value : Json) : Sql :=
  if rule.folds then Sql.text (lowercase ++ "(") ++ [.bound value none] ++ Sql.text ")"
  else [.bound value none]

/-- The right side of a comparison with values, unless it takes none: one value, two, a list,
or a text with a wildcard at one end or at both. -/
def rightSql? (c : Comparison) (rule : CaseRule) (values : List Json) (lowercase : String) :
    Option Sql :=
  let first := values.head?.getD .null
  let second := (values[1]?).getD .null
  let sql := boundSql rule lowercase
  match c with
  | .between => some (sql first ++ Sql.text " and " ++ sql second)
  | .isNull => none
  | .isNotNull => none
  | .isTrue => none
  | .isFalse => none
  | .startingWith => some (sql (.string (first.spelled ++ "%")))
  | .endingWith => some (sql (.string ("%" ++ first.spelled)))
  | .containing => some (sql (.string ("%" ++ first.spelled ++ "%")))
  | .notContaining => some (sql (.string ("%" ++ first.spelled ++ "%")))
  | .isIn => some (Sql.looped "(" "," ")" (first.items.map sql))
  | .notIn => some (Sql.looped "(" "," ")" (first.items.map sql))
  | _ => some (sql first)

/-- The comparison of a condition with the operands that a search object gives. -/
def predicateSql (d : Dialect) (search : Json) (pc : Property × Condition) : Sql :=
  let comparison := leftSql (comparedColumn pc.1 pc.2 d) pc.2.caseRule d.lowercase ++
    Sql.text (" " ++ operator pc.2.comparison)
  let values := (operands pc.1 pc.2).map (operandValue search)
  match rightSql? pc.2.comparison pc.2.caseRule values d.lowercase with
  | some right => comparison ++ Sql.text " " ++ right
  | none => comparison

/-- The predicates of the active conditions, in order. -/
def activePredicates (d : Dialect) (search : Json) (conditions : List (Property × Condition)) :
    List Sql :=
  (conditions.filter (isActive search)).map (predicateSql d search)

/-! ## Names of patterns -/

/-- The name of a pattern has its index in digits and no dots. -/
theorem bindName_toList (index : Nat) (operand : String) :
    (bindName index operand).toList = "__bind_".toList ++ Nat.toDigits 10 index ++ ['_'] ++
      operand.toList.map fun c => if c ∈ ['.'] then '_' else c := by
  simp [bindName, Text.underscored, Nat.toString_eq_repr]

/-- The name of a pattern has no dots. -/
theorem bindName_plain (index : Nat) (operand : String) :
    '.' ∉ (bindName index operand).toList := by
  rw [bindName_toList]
  intro h
  rcases List.mem_append.mp h with h | h
  · rcases List.mem_append.mp h with h | h
    · rcases List.mem_append.mp h with h | h
      · exact absurd h (by decide)
      · have hdigit := Nat.isDigit_of_mem_toDigits (by decide) (by decide) h
        exact absurd hdigit (by decide)
    · exact absurd h (by decide)
  · obtain ⟨c, _, hc⟩ := List.mem_map.mp h
    by_cases hdot : c ∈ ['.']
    · rw [if_pos hdot] at hc
      exact absurd hc (by decide)
    · rw [if_neg hdot] at hc
      exact hdot (by simp [hc])

/-- The name of a pattern is no parameter. -/
theorem bindName_free (index : Nat) (operand : String) (p : Parameter) :
    p.name ≠ bindName index operand := by
  intro h
  have htake := congrArg (fun name : String => name.toList.take 7) h
  simp only [bindName_toList, List.append_assoc] at htake
  rw [List.take_append_of_le_length (by decide)] at htake
  cases p <;> exact absurd htake (by decide)

/-! ## Sides -/

variable {q : Request} {s : Scope}

/-- An operator yields itself, unparsed or not. -/
theorem yields_operatorSegment (c : Comparison) :
    (operatorSegment c).Yields q (Sql.text (operator c)) := by
  rcases operatorSegment_cases c with h | h
  · exact h ▸ Template.yields_text _
  · exact h ▸ Template.yields_cdata _

/-- The left side yields its SQL. -/
theorem yields_leftSide (column : String) (rule : CaseRule) (lowercase : String) :
    (leftSide column rule lowercase).Yields q (leftSql column rule lowercase) := by
  rw [leftSide_eq_text, leftSql_eq_text]
  exact Template.yields_text _

/-- A bound value gives the value of its path, folded as the rule says. -/
theorem gives_boundValue (path : String) (rule : CaseRule) (lowercase : String) :
    (boundValue path rule lowercase).Gives s (boundSql rule lowercase (s.value path)) := by
  have hvalue := Template.gives_value (s := s) path none
  unfold boundValue boundSql
  split
  · exact ((Template.gives_text _).append hvalue).append (Template.gives_text _)
  · exact hvalue

/-- An operand yields its value in the condition. -/
theorem yields_operand (operand : String) (rule : CaseRule) (lowercase : String) :
    (boundValue (Parameter.condition.member operand) rule lowercase).Yields q
      (boundSql rule lowercase (operandValue (q.valueOf .condition) operand)) := by
  refine Template.yields_of_gives fun s hs => ?_
  have hgives := gives_boundValue (s := s) (Parameter.condition.member operand) rule lowercase
  rwa [hs.value_member] at hgives

/-- A pattern binds its name and uses it at once. -/
theorem yields_pattern (leading trailing : Bool) (operand : String) (index : Nat)
    (rule : CaseRule) (lowercase : String) :
    (pattern leading trailing operand index rule lowercase).Yields q
      (boundSql rule lowercase
        (.string ((if leading then "%" else "") ++
          (operandValue (q.valueOf .condition) operand).spelled ++
            (if trailing then "%" else "")))) := by
  intro s hs
  let name := bindName index operand
  let binding := Binding.pattern leading (Parameter.condition.member operand) trailing
  have hbound : (s.bind name (s.bound binding)).value name = s.bound binding :=
    s.value_bind_self (bindName_plain index operand) _
  have huse := gives_boundValue (s := s.bind name (s.bound binding)) name rule lowercase
  refine ⟨s.bind name (s.bound binding), ?_, hs.bind (bindName_free index operand) _⟩
  rw [Template.Gives, hbound] at huse
  rw [pattern, Template.eval_append, Template.eval_bind, huse]
  simp [binding, Scope.bound, hs.value_member, operandValue]

/-- A list of values yields all of them in brackets. -/
theorem yields_valueList (operand : String) (rule : CaseRule) (lowercase : String) :
    (valueList operand rule lowercase).Yields q
      (Sql.looped "(" "," ")"
        ((operandValue (q.valueOf .condition) operand).items.map (boundSql rule lowercase))) := by
  refine Template.yields_of_gives fun s hs => ?_
  have hround : ∀ (r : Scope) (item : Json),
      ((boundValue "__item" rule lowercase).eval (r.bind "__item" item)).1 =
        boundSql rule lowercase item := by
    intro r item
    have hgives := gives_boundValue (s := r.bind "__item" item) "__item" rule lowercase
    rw [Scope.value_bind_self _ (by decide)] at hgives
    rw [hgives]
  have hcollection : s.value (Parameter.condition.member operand) =
      operandValue (q.valueOf .condition) operand := hs.value_member _ _
  have hitems : (s.value (Parameter.condition.member operand)).items =
      (operandValue (q.valueOf .condition) operand).items.map id := by
    rw [hcollection, List.map_id]
  exact Template.eval_loop_of_rounds hitems fun item _ index => hround _ item

/-- A range has two operands. -/
theorem exists_second_of_between {α : Type} {first : α} {rest : List α}
    (harity : Comparison.between.arity = 0 ∨
      Comparison.between.arity = (first :: rest).length) : ∃ second, rest = [second] := by
  simpa [Comparison.arity, eq_comm, List.length_eq_one_iff] using harity

/-- The right side comes to its values, if there are as many operands as it takes. -/
theorem yields_rightSide {c : Comparison} {ops : List String} (rule : CaseRule) (index : Nat)
    (lowercase : String) (hops : ops ≠ []) (harity : c.arity = 0 ∨ c.arity = ops.length) :
    Option.Rel (fun t sql => t.Yields q sql) (rightSide? c rule ops index lowercase)
      (rightSql? c rule (ops.map (operandValue (q.valueOf .condition))) lowercase) := by
  obtain ⟨first, rest, rfl⟩ := List.exists_cons_of_ne_nil hops
  have hoperand := yields_operand (q := q) first rule lowercase
  cases c with
  | isNull => exact .none
  | isNotNull => exact .none
  | isTrue => exact .none
  | isFalse => exact .none
  | startingWith =>
    exact .some (by simpa using yields_pattern false true first index rule lowercase)
  | endingWith =>
    exact .some (by simpa using yields_pattern true false first index rule lowercase)
  | containing =>
    exact .some (by simpa using yields_pattern true true first index rule lowercase)
  | notContaining =>
    exact .some (by simpa using yields_pattern true true first index rule lowercase)
  | isIn => exact .some (yields_valueList first rule lowercase)
  | notIn => exact .some (yields_valueList first rule lowercase)
  | between =>
    obtain ⟨second, rfl⟩ := exists_second_of_between harity
    have hsecond := yields_operand (q := q) second rule lowercase
    exact .some ((hoperand.append (Template.yields_text " and ")).append hsecond)
  | _ => exact .some hoperand

/-! ## Predicates -/

/-- A predicate comes to its comparison with the values of its operands. -/
theorem yields_predicate {p : Property} {c : Condition} (index : Nat) (d : Dialect)
    (harity : c.comparison.arity = 0 ∨ c.comparison.arity = (operands p c).length) :
    (predicate p c index d).Yields q (predicateSql d (q.valueOf .condition) (p, c)) := by
  have hleft := yields_leftSide (q := q) (comparedColumn p c d) c.caseRule d.lowercase
  have hoperator := yields_operatorSegment (q := q) c.comparison
  have hcomparison := (hleft.append (Template.yields_text " ")).append hoperator
  rw [List.append_assoc, ← Sql.text_append] at hcomparison
  have hright := yields_rightSide (q := q) c.caseRule index d.lowercase (operands_ne_nil p c) harity
  simp only [predicate, predicateSql]
  generalize rightSide? c.comparison c.caseRule (operands p c) index d.lowercase = side? at *
  generalize rightSql? c.comparison c.caseRule _ d.lowercase = sql? at *
  cases hright with
  | none => exact hcomparison
  | some hright => exact (hcomparison.append (Template.yields_text " ")).append hright

/-- The guard of a condition is passed exactly if the condition is active. -/
theorem passes_operandTest (p : Property) (c : Condition) (hs : s.Sees q) :
    s.passes (operandTest p c) = isActive (q.valueOf .condition) (p, c) := by
  simp [operandTest, Scope.passes, isActive, operandValue, List.all_map, Function.comp_def,
    hs.value_member]

/-- The item of a condition yields its predicate, led by a connective, if it is active. -/
theorem yields_conditionItem {e : Entity} {p : Property} {c : Condition} {index : Nat}
    {d : Dialect} {t : Template} (h : conditionItem e p c index d = .ok t) :
    t.Yields q (if isActive (q.valueOf .condition) (p, c) then
      Sql.text " and " ++ predicateSql d (q.valueOf .condition) (p, c) else []) := by
  obtain ⟨_, harity, h⟩ := bind_eq_ok.mp h
  cases h
  have hpredicate := yields_predicate (q := q) index d ((checkArity_eq_ok_iff ..).mp harity)
  exact Template.Yields.guard (fun s hs => passes_operandTest p c hs)
    fun _ => (Template.yields_text " and ").append hpredicate

/-! ## The block -/

/-- The items come to the predicates of the active conditions, each led by ` and `. -/
theorem yields_conditionItems {e : Entity} {d : Dialect} {index : Nat}
    {conditions : List (Property × Condition)} {items : List Template}
    (h : conditionItems e d index conditions = .ok items) :
    (Template.concat items).Yields q
      ((activePredicates d (q.valueOf .condition) conditions).flatMap
        fun filter => Sql.text " and " ++ filter) := by
  induction conditions generalizing index items with
  | nil =>
    cases h
    exact Template.yields_empty
  | cons pc rest ih =>
    obtain ⟨p, c⟩ := pc
    obtain ⟨item, hitem, h⟩ := bind_eq_ok.mp h
    obtain ⟨others, hothers, h⟩ := bind_eq_ok.mp h
    cases h
    have hsequence := (yields_conditionItem hitem).append (ih hothers)
    by_cases hactive : isActive (q.valueOf .condition) (p, c) = true
    · simpa [activePredicates, hactive, Template.concat] using hsequence
    · simpa [activePredicates, hactive, Template.concat] using hsequence

/-- Without a search object no condition is active. -/
theorem activePredicates_null (d : Dialect) (conditions : List (Property × Condition)) :
    activePredicates d .null conditions = [] := by
  have hinactive : ∀ pc ∈ conditions, ¬ isActive .null pc = true := by
    intro pc _ hactive
    obtain ⟨operand, hoperand⟩ := List.exists_mem_of_ne_nil _ (operands_ne_nil pc.1 pc.2)
    have hpresent := List.all_eq_true.mp hactive operand hoperand
    rw [operandValue, Json.follow_null] at hpresent
    exact absurd hpresent (by decide)
  rw [activePredicates, List.filter_eq_nil_iff.mpr hinactive, List.map_nil]

/-- The block comes to the predicates of the active conditions, each led by ` and `. -/
theorem yields_conditionBlock {e : Entity} {d : Dialect} {t : Template}
    (h : conditionBlock e d = .ok t) :
    t.Yields q ((activePredicates d (q.valueOf .condition) (conditionsOf e)).flatMap
      fun filter => Sql.text " and " ++ filter) := by
  obtain ⟨items, hitems, h⟩ := bind_eq_ok.mp h
  cases h
  have hblock := Template.Yields.whenPresent (p := .condition) fun _ =>
    yields_conditionItems (q := q) hitems
  cases hsearch : q.valueOf .condition with
  | null => simpa [hsearch, Json.isNull, activePredicates_null] using hblock
  | _ => simpa [hsearch, Json.isNull] using hblock

/-- A predicate is never empty: it shows its operator. -/
theorem predicateSql_visible (d : Dialect) (search : Json) (pc : Property × Condition) :
    (predicateSql d search pc).IsVisible := by
  have hoperator : (Sql.text (" " ++ operator pc.2.comparison)).IsVisible := by
    cases pc.2.comparison <;> decide
  have hcomparison := hoperator.append_right
    (leftSql (comparedColumn pc.1 pc.2 d) pc.2.caseRule d.lowercase)
  simp only [predicateSql]
  split
  · rw [List.append_assoc]
    exact hcomparison.append_left _
  · exact hcomparison

/-- A bound value is visible to its end. -/
theorem trimEnd_boundSql (rule : CaseRule) (lowercase : String) (value : Json) :
    (boundSql rule lowercase value).IsVisible ∧
      Sql.trimEnd (boundSql rule lowercase value) = boundSql rule lowercase value := by
  have hbound : Sql.IsVisible [Piece.bound value none] := Sql.isVisible_bound value none
  have hclosing : (Sql.text ")").IsVisible := by decide
  unfold boundSql
  split
  · exact ⟨hclosing.append_right _, Sql.trimEnd_append _ hclosing⟩
  · exact ⟨hbound, rfl⟩

end EntityMapping.Generation
