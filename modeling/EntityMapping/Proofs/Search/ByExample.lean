import EntityMapping.Generation.Run
import EntityMapping.Params.Example
import EntityMapping.Proofs.Engine.Listing

/-!
# Searches by example

An example object restricts a search to the rows that satisfy all criteria of one of its groups.
The condition is a fixed template: it tells by the flags of a criterion which values stand
after its text, and by the flag of a group whether the group counts.

Main results:

- `Generation.eval_criterion`: a criterion comes to its text and the values that it carries.
- `Generation.eval_group`: the criteria of a group are joined between brackets.
- `Generator.example_restricts`: the condition of an example is made of its groups that have
  criteria.
-/

namespace EntityMapping

/-! ## The condition of an example -/

/-- The values of a criterion behind its text: none, one, two joined by `and`, or a list between
brackets. -/
def CriterionValue.sql : CriterionValue → Sql
  | none => []
  | single value => Sql.text " " ++ [.bound value Option.none]
  | between first second =>
    Sql.text " " ++ [.bound first Option.none] ++ Sql.text " and " ++ [.bound second Option.none]
  | list [] => []
  | list (value :: rest) =>
    Sql.text "(" ++ Sql.join "," ((value :: rest).map fun v => [.bound v Option.none]) ++
      Sql.text ")"

/-- The text of a criterion and its values. -/
def Criterion.sql (c : Criterion) : Sql := Sql.text c.condition ++ c.value.sql

/-- The criteria of a group, joined by `and` between brackets.  Blanks after the last one do not
count. -/
def CriteriaGroup.sql (g : CriteriaGroup) : Sql :=
  Sql.text "(" ++ Sql.trimEnd (Sql.text " " ++ Sql.join " and " (g.map Criterion.sql)) ++
    Sql.text ")"

/-- The groups that have criteria. -/
def Example.alternatives (e : Example) : List CriteriaGroup := e.groups.filter fun g => !g.isEmpty

/-- The clause for an example: its alternatives joined by `or`, if there are any. -/
def Example.clause (e : Example) : Sql :=
  if e.alternatives.isEmpty then []
  else Sql.text "where " ++ Sql.join "or" (e.alternatives.map CriteriaGroup.sql)

/-! ## Trimming -/

namespace Sql

/-- Blanks at the end are looked for behind a visible piece only. -/
theorem trimEnd_append_of_trimmed {a : Sql} (h : trimEnd a = a) (b : Sql) :
    trimEnd (a ++ b) = a ++ trimEnd b := by
  have hreverse : a.reverse.dropWhile Piece.isBlank = a.reverse := by
    rw [trimEnd, List.rdropWhile] at h
    exact List.reverse_eq_iff.mp h
  simp only [trimEnd, List.rdropWhile, List.reverse_append]
  rw [List.dropWhile_append]
  split
  · next hblank =>
    rw [hreverse, List.isEmpty_iff.mp hblank, List.reverse_reverse, List.reverse_nil,
      List.append_nil]
  · simp

/-- Criteria that are each led by ` and ` come to their conjunction between brackets. -/
theorem wrapped_criteria {criteria : List Sql} (h : criteria ≠ []) :
    wrapped "(" "and" ")" "" (criteria.flatMap fun criterion => text " and " ++ criterion) =
      text "(" ++ trimEnd (text " " ++ join " and " criteria) ++ text ")" := by
  obtain ⟨first, rest, rfl⟩ := List.exists_cons_of_ne_nil h
  have hled : ((first :: rest).flatMap fun criterion => text " and " ++ criterion) =
      text " and " ++ join " and " (first :: rest) := by
    rw [join_cons, List.flatMap_cons, List.append_assoc]
  have htrim : trim (text " and " ++ join " and " (first :: rest)) =
      text "and" ++ trimEnd (text " " ++ join " and " (first :: rest)) := by
    rw [← trimEnd_append_of_trimmed (a := text "and") rfl]
    rfl
  have hne : (text "and" ++ trimEnd (text " " ++ join " and " (first :: rest))).isEmpty = false :=
    rfl
  rw [wrapped, hled, htrim]
  simp [hne]

/-- SQL from a bracket to a bracket is the clause of its condition as it is. -/
theorem whereOf_bracketed (inner : Sql) :
    whereOf (text "(" ++ inner ++ text ")") = text "where " ++ (text "(" ++ inner ++ text ")") := by
  have htrim : trim (text "(" ++ inner ++ text ")") = text "(" ++ inner ++ text ")" :=
    trim_concat (text "(" ++ inner) (by decide)
  have hne : (text "(" ++ inner ++ text ")").isEmpty = false := rfl
  have hstart : withoutStart "and " (text "(" ++ inner ++ text ")") =
      text "(" ++ inner ++ text ")" := rfl
  rw [whereOf, wrapped, htrim, hstart, hne, withoutEnd_empty, text_empty, List.append_nil]
  rfl

/-- Items joined by nothing. -/
theorem join_empty {α : Type} (items : List α) (sql : α → Sql) :
    join "" (items.map sql) = items.flatMap sql := by
  cases items with
  | nil => rfl
  | cons item rest => simp [join_cons, List.flatMap_map]

/-- Conditions between brackets that are joined stand between brackets. -/
theorem join_bracketed (separator : String) {items : List Sql} (hne : items ≠ [])
    (h : ∀ item ∈ items, ∃ inner, item = text "(" ++ inner ++ text ")") :
    ∃ inner, join separator items = text "(" ++ inner ++ text ")" := by
  induction items with
  | nil => exact absurd rfl hne
  | cons item rest ih =>
    obtain ⟨inner, hitem⟩ := h item List.mem_cons_self
    cases rest with
    | nil => exact ⟨inner, by rw [join_singleton, hitem]⟩
    | cons next rest =>
      obtain ⟨others, hothers⟩ := ih (List.cons_ne_nil next rest) fun other hother =>
        h other (List.mem_cons_of_mem item hother)
      refine ⟨inner ++ text ")" ++ text separator ++ (text "(" ++ others), ?_⟩
      rw [join_cons_cons, hitem, hothers]
      simp only [List.append_assoc]

end Sql

/-! ## Criteria -/

namespace Generation

open Template

/-- The settings of the loop over the groups of an example. -/
def groupSettings : List (LoopSetting × String) :=
  [(.collection, "oredCriteria"), (.item, "criteria"), (.separator, "or")]

/-- The settings of the loop over the criteria of a group. -/
def criterionSettings : List (LoopSetting × String) :=
  [(.collection, "criteria.criteria"), (.item, "criterion")]

/-- The settings of the loop over the values of a list. -/
def valueSettings : List (LoopSetting × String) :=
  [(.closing, ")"), (.collection, "criterion.value"), (.item, "listItem"), (.opening, "("),
    (.separator, ",")]

/-- A list of values between brackets comes to these values. -/
theorem eval_listedValues {s : Scope} {values : List Json}
    (h : s.value "criterion.value" = .array values) :
    ((loop valueSettings (value "listItem" none)).eval s).1 = (CriterionValue.list values).sql := by
  have hitems : (s.value (loopText valueSettings .collection)).items = values.map id := by
    rw [List.map_id]
    exact congrArg Json.items h
  have hround : ∀ v index,
      ((value "listItem" none).eval (s.round valueSettings v index)).1 = [.bound v none] := by
    intro v index
    have hitem : ∀ scope : Scope, (scope.bind "listItem" v).value "listItem" = v :=
      fun scope => scope.value_bind_self (by decide) v
    rw [eval_value]
    exact congrArg (fun found => [Piece.bound found none]) (hitem _)
  rw [eval_loop_of_rounds hitems fun v _ index => hround v index]
  cases values with
  | nil => rfl
  | cons value rest => exact Sql.looped_of_ne_nil (List.cons_ne_nil _ _) (by simp)

/-- A criterion in scope comes to its text and the values that it carries, led by `and`. -/
theorem eval_criterion {s : Scope} {c : Criterion}
    (h : ∀ path, s.value ("criterion" ++ "." ++ path) = c.json.follow (pathNames path)) :
    ((choose criterionBranches).eval s).1 = Sql.text " and " ++ c.sql := by
  have hcondition : (s.indexed "criterion.condition").spelled = c.condition := by
    rw [s.indexed_of_plain (by decide)]
    exact congrArg Json.spelled (h "condition")
  have hfirst : s.value "criterion.value" = c.value.first := h "value"
  have hsecond : s.value "criterion.secondValue" = c.value.second := h "secondValue"
  have hnone : s.passes (.holds "criterion.noValue") = c.value.isNone :=
    congrArg Json.holds (h "noValue")
  have hsingle : s.passes (.holds "criterion.singleValue") = c.value.isSingle :=
    congrArg Json.holds (h "singleValue")
  have hbetween : s.passes (.holds "criterion.betweenValue") = c.value.isBetween :=
    congrArg Json.holds (h "betweenValue")
  have hlist : s.passes (.holds "criterion.listValue") = c.value.isList :=
    congrArg Json.holds (h "listValue")
  rw [eval_choose]
  cases hvalue : c.value with
  | none =>
    rw [hvalue] at hnone
    simp [criterionBranches, choice?_append, choice?_branch, hnone, criterionCondition, hcondition,
      CriterionValue.isNone, Criterion.sql, hvalue, CriterionValue.sql]
  | single value =>
    rw [hvalue] at hnone hsingle hfirst
    simp [criterionBranches, choice?_append, choice?_branch, hnone, hsingle, criterionCondition,
      hcondition, hfirst, CriterionValue.isNone, CriterionValue.isSingle, CriterionValue.first,
      Criterion.sql, hvalue, CriterionValue.sql]
  | between first second =>
    rw [hvalue] at hnone hsingle hbetween hfirst hsecond
    simp [criterionBranches, choice?_append, choice?_branch, hnone, hsingle, hbetween,
      criterionCondition, hcondition, hfirst, hsecond, CriterionValue.isNone,
      CriterionValue.isSingle, CriterionValue.isBetween, CriterionValue.first,
      CriterionValue.second, Criterion.sql, hvalue, CriterionValue.sql]
  | list values =>
    rw [hvalue] at hnone hsingle hbetween hlist hfirst
    have hvalues := eval_listedValues hfirst
    rw [valueSettings] at hvalues
    simp [criterionBranches, choice?_append, choice?_branch, hnone, hsingle, hbetween, hlist,
      criterionCondition, hcondition, hvalues, CriterionValue.isNone, CriterionValue.isSingle,
      CriterionValue.isBetween, CriterionValue.isList, Criterion.sql, hvalue]

/-- A group in scope that has criteria comes to their conjunction between brackets. -/
theorem eval_group {s : Scope} {g : CriteriaGroup}
    (h : ∀ path, s.value ("criteria" ++ "." ++ path) = g.json.follow (pathNames path))
    (hne : g ≠ []) : (criteriaGroup.eval s).1 = g.sql := by
  have hitems : (s.value "criteria.criteria").items = g.map Criterion.json :=
    congrArg Json.items (h "criteria")
  have hloop : ((loop criterionSettings (choose criterionBranches)).eval s).1 =
      (g.map Criterion.sql).flatMap fun criterion => Sql.text " and " ++ criterion := by
    have hround : ∀ (c : Criterion) index,
        ((choose criterionBranches).eval (s.round criterionSettings c.json index)).1 =
          Sql.text " and " ++ c.sql :=
      fun c index => eval_criterion fun path => Scope.value_bind_inside _ (by decide) c.json path
    rw [eval_loop_of_rounds hitems fun c _ index => hround c index]
    have hrounds : ∀ round ∈ g.map fun c => Sql.text " and " ++ c.sql, round ≠ [] := by
      intro round hround
      obtain ⟨c, _, rfl⟩ := List.mem_map.mp hround
      exact List.cons_ne_nil _ _
    have hlooped : Sql.looped "" "" "" (g.map fun c => Sql.text " and " ++ c.sql) = _ :=
      Sql.looped_of_ne_nil (by simpa using hne) hrounds
    rw [List.flatMap_map, ← Sql.join_empty]
    exact hlooped.trans (List.append_nil _)
  have hcriteria : g.map Criterion.sql ≠ [] := by simpa using hne
  have hwrapped := Sql.wrapped_criteria hcriteria
  rw [← hloop] at hwrapped
  exact hwrapped

/-- A group counts if it has criteria. -/
theorem eval_guardedGroup {s : Scope} {g : CriteriaGroup}
    (h : ∀ path, s.value ("criteria" ++ "." ++ path) = g.json.follow (pathNames path)) :
    ((guard (.holds "criteria.valid") criteriaGroup).eval s).1 = if g.isEmpty then [] else g.sql := by
  have hvalid : s.passes (.holds "criteria.valid") = !g.isEmpty := congrArg Json.holds (h "valid")
  cases hempty : g.isEmpty with
  | true =>
    rw [eval_guard_of_not (by rw [hvalid, hempty]; rfl)]
    rfl
  | false =>
    rw [eval_guard_of_passes (by rw [hvalid, hempty]; rfl), eval_group h (by simpa using hempty)]
    rfl

end Generation

/-! ## The clause -/

/-- Of the groups, those without criteria leave nothing behind, not even a separator. -/
theorem Sql.looped_groups (groups : List CriteriaGroup) :
    looped "" "or" "" (groups.map fun g => if g.isEmpty then [] else g.sql) =
      join "or" ((groups.filter fun g => !g.isEmpty).map CriteriaGroup.sql) := by
  have hrounds : ((groups.map fun g => if g.isEmpty then [] else g.sql).filter
      fun round : Sql => !round.isEmpty) = (groups.filter fun g => !g.isEmpty).map
        CriteriaGroup.sql := by
    induction groups with
    | nil => rfl
    | cons g rest ih =>
      cases g with
      | nil => exact ih
      | cons c others =>
        rw [List.map_cons, List.filter_cons, List.filter_cons, ih]
        rfl
  cases groups with
  | nil => rfl
  | cons g rest =>
    rw [looped, hrounds]
    simp

namespace Generation

open Template

/-- The condition for an example comes to the clause of its alternatives. -/
theorem evaluate_exampleWhere (e : Example) : exampleWhere.evaluate e.json = e.clause := by
  have hitems : ((Scope.of e.json).value "oredCriteria").items =
      e.groups.map CriteriaGroup.json := by
    rw [Scope.value_of_pathNames _ (pathNames_of_plain (by decide))]
    rfl
  have hloop : ((loop groupSettings (guard (.holds "criteria.valid") criteriaGroup)).eval
      (Scope.of e.json)).1 = Sql.join "or" (e.alternatives.map CriteriaGroup.sql) := by
    have hround : ∀ (g : CriteriaGroup) index,
        ((guard (.holds "criteria.valid") criteriaGroup).eval
          ((Scope.of e.json).round groupSettings g.json index)).1 =
            if g.isEmpty then [] else g.sql :=
      fun g index =>
        eval_guardedGroup fun path => Scope.value_bind_inside _ (by decide) g.json path
    rw [eval_loop_of_rounds hitems fun g _ index => hround g index]
    exact Sql.looped_groups e.groups
  have hclause : exampleWhere.evaluate e.json =
      Sql.whereOf (Sql.join "or" (e.alternatives.map CriteriaGroup.sql)) := by
    rw [← hloop]
    rfl
  rw [hclause, Example.clause]
  cases halternatives : e.alternatives with
  | nil => rfl
  | cons g rest =>
    have hbracketed : ∀ item ∈ (g :: rest).map CriteriaGroup.sql,
        ∃ inner, item = Sql.text "(" ++ inner ++ Sql.text ")" := by
      intro item hitem
      obtain ⟨group, _, rfl⟩ := List.mem_map.mp hitem
      exact ⟨_, rfl⟩
    obtain ⟨inner, hinner⟩ := Sql.join_bracketed "or" (by simp) hbracketed
    rw [hinner, Sql.whereOf_bracketed]
    rfl

end Generation

namespace Generator

variable (g : Generator)

/-- Called with an example, the condition of example queries is the clause of its alternatives:
the groups that have criteria, in order, joined by `or`, each with its criteria joined by `and`
between brackets, and each criterion with the values that it carries.  It vanishes exactly if no
group has criteria. -/
theorem example_restricts (companion : String) : ∃ s,
    g.make companion .exampleWhereClause = .ok s ∧
      ∀ e : Example, s.body.evaluate e.json = e.clause ∧
        (s.body.evaluate e.json = [] ↔ ∀ group ∈ e.groups, group = []) := by
  refine ⟨_, rfl, fun e => ⟨Generation.evaluate_exampleWhere e, ?_⟩⟩
  have hnone : e.alternatives = [] ↔ ∀ group ∈ e.groups, group = [] := by
    simp [Example.alternatives]
  rw [← hnone]
  have hbody : (g.exampleWhereStatement).body.evaluate e.json = e.clause :=
    Generation.evaluate_exampleWhere e
  rw [hbody, Example.clause]
  cases e.alternatives with
  | nil => simp
  | cons group rest => simp [Sql.text]

/-- A group without criteria between two others leaves no trace. -/
example :
    Generation.exampleWhere.evaluate (Example.json
      ⟨[[⟨"name =", .single (.string "alice")⟩, ⟨"age in", .list [.int 30, .int 31]⟩], [],
        [⟨"deleted_at is null", .none⟩]], true, none⟩) =
      Sql.text "where ( name = " ++ [.bound (.string "alice") none] ++ Sql.text " and age in(" ++
        [.bound (.int 30) none] ++ Sql.text "," ++ [.bound (.int 31) none] ++
        Sql.text "))or( deleted_at is null)" := by
  rfl

end Generator

end EntityMapping
