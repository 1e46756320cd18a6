import EntityMapping.Proofs.Engine.Agreement
import EntityMapping.Proofs.Run.Repetition
import EntityMapping.Proofs.Run.StatementTexts
import EntityMapping.Proofs.Search.Predicates
import EntityMapping.Proofs.Xml.Document
import EntityMapping.Proofs.Xml.Legibility

/-!
# Statements refer to what is there

The parts of a statement are put together from functions that know nothing of each other: items
of loops, names of patterns and the map of columns are given out in one part and used in
another.  Still every value that a statement refers to is a parameter that it is documented to
read, a mapped property or key member of its entity, or a name that the statement itself gives
out around the reference; and its result map and its fragments are registered beside it.

Main results:

- `Generation.conditionBlock_closed`, `Generator.orderBy_closed`: names that are given out in one
  part and used in another.
- `Generator.make_closed`: every statement refers to what is supplied to it.
- `Generator.run_closed`: after a run nothing that a new statement refers to is missing, and its SQL
  depends on nothing else.
- `Generator.notes_open_references`: texts of the metadata may bring in references of their own.
-/

namespace EntityMapping

/-! ## What is supplied to statements -/

/-- The parameters that a statement is documented to read.  An insertion reads the properties of
its entity, and a statement for one row the members of its key.  A search by example also asks
for its parameter as a whole, which every call offers as `_parameter`. -/
def StatementName.parameters : StatementName → List String
  | updateSelectiveById => [Parameter.entity.name, Parameter.id.name]
  | updateSelective => [Parameter.entity.name]
  | updateById => [Parameter.entity.name, Parameter.id.name]
  | update => [Parameter.entity.name]
  | deleteByIds => [Parameter.ids.name]
  | findByPager =>
    [Parameter.ids.name, Parameter.condition.name, Parameter.sort.name, Parameter.offset.name,
      Parameter.pageSize.name]
  | find => [Parameter.ids.name, Parameter.condition.name, Parameter.sort.name]
  | count => [Parameter.condition.name]
  | exampleWhereClause => ["oredCriteria"]
  | findByExample => ["distinct", "orderByClause", "_parameter"]
  | resultMap => []
  | baseColumnList => []
  | insertSelective => []
  | insert => []
  | deleteById => []
  | deleteAll => []
  | getById => []
  | countAll => []

/-- The path is one that the statement of a name finds in the entity or in its key: a mapped path
for the insertions, and a key member for the statements that address one row by its key. -/
def Generator.Maps (g : Generator) (name : StatementName) (path : String) : Prop :=
  ∃ slots, g.slots = .ok slots ∧ ∃ slot ∈ slots,
    ((name = .insert ∨ name = .insertSelective) ∧ path = slot.path) ∨
      ((name = .getById ∨ name = .deleteById) ∧ slot.isKey = true ∧ path = slot.member)

/-- What is supplied to the statement of a name, if the registry is as given. -/
def Generator.supply (g : Generator) (name : StatementName) (r : Registry) : Supply where
  values path := (∃ p ∈ name.parameters, StartsAt path p) ∨ g.Maps name path
  fragments id := r.contains ⟨g.repository.namespaceName, id⟩ = true

/-- The reference has a root: a documented parameter of the statement, a mapped property or key
member of the entity, or a name that a loop or an earlier binding gives out around it. -/
def Generator.Roots (g : Generator) (name : StatementName) (m : Mention) : Prop :=
  (∃ p ∈ name.parameters, StartsAt m.path p) ∨ g.Maps name m.path ∨
    ∃ given ∈ m.names, StartsAt m.path given

/-- What is found among the values that are supplied has a root. -/
theorem Generator.roots_of_finds {g : Generator} {name : StatementName} {r : Registry}
    {m : Mention} (h : (g.supply name r).Finds m.names m.path) : g.Roots name m :=
  or_assoc.mp h

/-! ## Parts of statements -/

namespace Generation

variable {supply : Supply} {names : List String} {path operand lowercase : String}

/-- What is guarded by its presence refers to what is found. -/
theorem whenPresent_closed {body : Template} (hpath : supply.Finds names path)
    (hbody : body.Closed supply names) : (whenPresent path body).Closed supply names :=
  hbody.guard (List.forall_mem_singleton.mpr hpath)

/-! ### Conditions -/

/-- A bound value refers to its path, folded or not. -/
theorem boundValue_closed (h : supply.Finds names path) (rule : CaseRule) :
    (boundValue path rule lowercase).Closed supply names := by
  have hvalue := Template.closed_value h none
  unfold boundValue
  split
  · exact ((Template.closed_text _).append hvalue).append (Template.closed_text _)
  · exact hvalue

/-- A pattern gives out its name before it uses it. -/
theorem pattern_closed (hcondition : supply.Offers .condition) (leading trailing : Bool)
    (index : Nat) (rule : CaseRule) :
    (pattern leading trailing operand index rule lowercase).Closed supply names := by
  have hoperand : ∀ path ∈ (Binding.pattern leading (Parameter.condition.member operand)
      trailing).paths, supply.Finds names path :=
    List.forall_mem_singleton.mpr (hcondition.finds_member operand _)
  apply (Template.closed_bind hoperand _).append_bound
  exact boundValue_closed
    (Supply.finds_name List.mem_cons_self (startsAt_self (bindName_plain index operand))) rule

/-- A list of values gives out its item. -/
theorem valueList_closed (hcondition : supply.Offers .condition) (rule : CaseRule) :
    (valueList operand rule lowercase).Closed supply names := by
  apply Template.Closed.loop (hcondition.finds_member operand _)
  exact boundValue_closed (Supply.finds_name List.mem_cons_self (by decide)) rule

/-- The right side of a comparison refers to operands in the condition and to names of its own. -/
theorem rightSide_closed (hcondition : supply.Offers .condition) {c : Comparison}
    {rule : CaseRule} {operands : List String} {index : Nat} {t : Template}
    (h : rightSide? c rule operands index lowercase = some t) : t.Closed supply names := by
  have hoperand : ∀ operand,
      (boundValue (Parameter.condition.member operand) rule lowercase).Closed supply names :=
    fun operand => boundValue_closed (hcondition.finds_member operand _) rule
  cases c with
  | between =>
    cases h
    exact ((hoperand _).append (Template.closed_text _)).append (hoperand _)
  | startingWith => cases h; exact pattern_closed hcondition _ _ _ _
  | endingWith => cases h; exact pattern_closed hcondition _ _ _ _
  | containing => cases h; exact pattern_closed hcondition _ _ _ _
  | notContaining => cases h; exact pattern_closed hcondition _ _ _ _
  | isIn => cases h; exact valueList_closed hcondition _
  | notIn => cases h; exact valueList_closed hcondition _
  | isNull => cases h
  | isNotNull => cases h
  | isTrue => cases h
  | isFalse => cases h
  | _ => cases h; exact hoperand _

/-- A predicate refers to operands in the condition and to names of its own. -/
theorem predicate_closed (hcondition : supply.Offers .condition) (p : Property) (c : Condition)
    (index : Nat) (d : Dialect) : (predicate p c index d).Closed supply names := by
  have hleft : (leftSide (comparedColumn p c d) c.caseRule d.lowercase).Closed supply names := by
    rw [leftSide_eq_text]
    exact Template.closed_text _
  have hoperator : (operatorSegment c.comparison).Closed supply names := by
    rcases operatorSegment_cases c.comparison with h | h
    · exact h ▸ Template.closed_text _
    · exact h ▸ Template.closed_cdata _
  have hcomparison := (hleft.append (Template.closed_text " ")).append hoperator
  unfold predicate
  split
  · next right hright =>
    exact (hcomparison.append (Template.closed_text " ")).append
      (rightSide_closed hcondition hright)
  · exact hcomparison

/-- The conditions of an entity refer to the search object, to items of its lists and to the names
of their own patterns. -/
theorem conditionBlock_closed (hcondition : supply.Offers .condition) {e : Entity} {d : Dialect}
    {t : Template} (h : conditionBlock e d = .ok t) : t.Closed supply names := by
  rcases bind_eq_ok.mp h with ⟨items, hitems, h⟩
  cases h
  apply whenPresent_closed (hcondition.finds _)
  apply Template.closed_concat
  intro item hitem
  rcases (conditionItems_mem hitems).1 item hitem with ⟨⟨p, c⟩, _, index, hmade⟩
  rcases bind_eq_ok.mp hmade with ⟨_, _, hmade⟩
  cases hmade
  apply Template.Closed.guard
  · intro path hpath
    rcases List.mem_map.mp hpath with ⟨operand, _, rfl⟩
    exact hcondition.finds_member operand _
  · exact (Template.closed_text _).append (predicate_closed hcondition p c index d)

/-! ### Example queries -/

/-- A criterion is given out by the loop over its group. -/
theorem criterionBranches_closed (hcriterion : "criterion" ∈ names) :
    criterionBranches.Closed supply names := by
  have hmember : ∀ path, StartsAt path "criterion" → supply.Finds names path :=
    fun _ => Supply.finds_name hcriterion
  have htest : ∀ path, StartsAt path "criterion" →
      ∀ p ∈ (Test.holds path).paths, supply.Finds names p :=
    fun path h => List.forall_mem_singleton.mpr (hmember path h)
  have hcondition : criterionCondition.Closed supply names := by
    apply (Template.closed_text _).append
    apply Template.closed_splice
    rw [indexedPaths_of_plain (by decide)]
    exact List.forall_mem_singleton.mpr (hmember _ (by decide))
  have hvalue : (Template.value "criterion.value" none).Closed supply names :=
    Template.closed_value (hmember _ (by decide)) none
  have hsecond : (Template.value "criterion.secondValue" none).Closed supply names :=
    Template.closed_value (hmember _ (by decide)) none
  have hnone := hcondition.branch (htest "criterion.noValue" (by decide))
  have hsingle := ((hcondition.append (Template.closed_text " ")).append hvalue).branch
    (htest "criterion.singleValue" (by decide))
  have hbetween := ((((hcondition.append (Template.closed_text " ")).append hvalue).append
    (Template.closed_text " and ")).append hsecond).branch
      (htest "criterion.betweenValue" (by decide))
  have hitems : (Template.loop
      [(.closing, ")"), (.collection, "criterion.value"), (.item, "listItem"), (.opening, "("),
        (.separator, ",")] (.value "listItem" none)).Closed supply names := by
    apply Template.Closed.loop (hmember _ (by decide))
    exact Template.closed_value (Supply.finds_name List.mem_cons_self (by decide)) none
  have hlist := (hcondition.append hitems).branch
    (htest "criterion.listValue" (by decide))
  exact ((hnone.append hsingle).append hbetween).append hlist

/-- The groups of criteria and the criteria are given out by loops. -/
theorem exampleWhere_closed (hgroups : supply.values "oredCriteria") :
    exampleWhere.Closed supply names := by
  apply Template.Closed.whereClause
  apply Template.Closed.loop (.inl hgroups)
  have hgroup : ∀ path, StartsAt path "criteria" → supply.Finds ("criteria" :: names) path :=
    fun _ => Supply.finds_name List.mem_cons_self
  apply Template.Closed.guard
  · exact List.forall_mem_singleton.mpr (hgroup _ (by decide))
  · apply Template.Closed.trim
    apply Template.Closed.loop (hgroup _ (by decide))
    exact (criterionBranches_closed List.mem_cons_self).choose rfl

end Generation

/-! ## Page windows -/

/-- A page window refers to what its query refers to, to the offset and to the page size. -/
theorem Dialect.window_closed {supply : Supply} {names : List String}
    (hoffset : supply.Offers .offset) (hsize : supply.Offers .pageSize) (d : Dialect)
    {query : Template} (h : query.Closed supply names) :
    (d.window query).Closed supply names := by
  have hoffset : (Template.value Parameter.offset.name none).Closed supply names :=
    Template.closed_value (hoffset.finds _) none
  have hsize : (Template.value Parameter.pageSize.name none).Closed supply names :=
    Template.closed_value (hsize.finds _) none
  cases d with
  | postgres | h2 =>
    exact (((h.append (Template.closed_text _)).append hsize).append
      (Template.closed_text _)).append hoffset
  | mysql =>
    exact (((h.append (Template.closed_text _)).append hoffset).append
      (Template.closed_text _)).append hsize
  | oracle =>
    have hfront :=
      (Template.closed_text "select * from ( select row_.*, rownum rownum_ from ( ").append h
    have hrows := ((hfront.append (Template.closed_text " ) row_ where rownum ")).append
      (Template.closed_cdata "<=")).append (Template.closed_text " ")
    have hlast := ((hrows.append hoffset).append (Template.closed_text " + ")).append hsize
    exact (((hlast.append (Template.closed_text _)).append (Template.closed_cdata _)).append
      (Template.closed_text _)).append hoffset

/-! ## Statements -/

namespace Generator

open Generation

variable {g : Generator} {r after : Registry} {o : Outcome} {t : Template} {s : Statement}
  {supply : Supply} {names : List String}

/-! ### Keys -/

/-- A match of the key refers to the values of its parts. -/
theorem keyMatch_closed {source : KeySource}
    (hkeys : ∀ slots, g.slots = .ok slots → ∀ slot ∈ slots, slot.isKey = true →
      supply.values (source.path g.entity.key.isSimple slot))
    (hmatch : g.keyMatch source = .ok t) : t.Closed supply names := by
  unfold keyMatch at hmatch
  split at hmatch
  · cases hmatch
  · rcases map_eq_ok.mp hmatch with ⟨keys, hfound, rfl⟩
    rcases map_eq_ok.mp hfound with ⟨slots, hslots, rfl⟩
    apply Template.closed_join
    intro part hpart
    rcases List.mem_map.mp hpart with ⟨slot, hslot, rfl⟩
    rcases List.mem_filter.mp hslot with ⟨hmem, hkey⟩
    exact (Template.closed_text _).append
      (Template.closed_value (.inl (hkeys slots hslots slot hmem hkey)) _)

/-- The keys are given out by a loop, as a whole or member by member. -/
theorem keysMatch_closed (hids : supply.Offers .ids) (hmatch : g.keysMatch = .ok t) :
    t.Closed supply names := by
  unfold keysMatch at hmatch
  split at hmatch
  · cases hmatch
  · cases hmatch
    apply (Template.closed_text _).append
    apply Template.Closed.loop (hids.finds _)
    exact Template.closed_value (Supply.finds_name List.mem_cons_self (by decide)) none
  · rcases map_eq_ok.mp hmatch with ⟨keys, hfound, rfl⟩
    apply Template.Closed.loop (hids.finds _)
    apply Template.closed_join
    intro part hpart
    rcases List.mem_map.mp hpart with ⟨slot, _, rfl⟩
    have hpath : "item" ++ "." ++ slot.member = "item." ++ slot.member := rfl
    have hmember : StartsAt ("item." ++ slot.member) "item" :=
      hpath ▸ startsAt_inside (by decide) slot.member
    exact (Template.closed_text _).append
      (Template.closed_value (Supply.finds_name List.mem_cons_self hmember) none)

/-- A guarded match of keys refers to the ids. -/
theorem guardedKeysMatch_closed (hids : supply.Offers .ids) (hmatch : g.guardedKeysMatch = .ok t) :
    t.Closed supply names := by
  unfold guardedKeysMatch at hmatch
  split at hmatch
  · cases hmatch
    exact Template.closed_empty
  · rcases map_eq_ok.mp hmatch with ⟨keys, hkeys, rfl⟩
    apply whenPresent_closed (hids.finds _)
    exact (Template.closed_text _).append (keysMatch_closed hids hkeys)

/-! ### Searches -/

/-- The map of columns is bound before the loop over the orders that looks columns up in it. -/
theorem orderBy_closed (hsort : supply.Offers .sort) (horder : g.orderBy = .ok t) :
    t.Closed supply names := by
  rcases bind_eq_ok.mp horder with ⟨slots, _, horder⟩
  cases horder
  apply whenPresent_closed (hsort.finds _)
  apply Template.Closed.append_bound
  · exact (Template.closed_bind (List.forall_mem_nil _) _).append (Template.closed_text _)
  · apply Template.Closed.loop (hsort.finds _)
    have hitem : ∀ path, StartsAt path "item" →
        supply.Finds ("item" :: "idx" :: columnsName :: names) path :=
      fun _ => Supply.finds_name List.mem_cons_self
    have hignoring : ∀ sql, (Template.guard (.holds "item.ignoreCase") (.text sql)).Closed supply
        ("item" :: "idx" :: columnsName :: names) := fun sql =>
      (Template.closed_text sql).guard
        (List.forall_mem_singleton.mpr (hitem _ (by decide)))
    have hcolumn : (Template.splice (columnsName ++ "[item.property]")).Closed supply
        ("item" :: "idx" :: columnsName :: names) := by
      apply Template.closed_splice
      have hpaths : indexedPaths (columnsName ++ "[item.property]") =
          [columnsName, "item.property"] := by decide
      rw [hpaths, List.forall_mem_cons, List.forall_mem_singleton]
      exact ⟨Supply.finds_name (by simp) (startsAt_self (by decide)), hitem _ (by decide)⟩
    have hdirection : (Template.splice "item.direction").Closed supply
        ("item" :: "idx" :: columnsName :: names) := by
      apply Template.closed_splice
      rw [indexedPaths_of_plain (by decide)]
      exact List.forall_mem_singleton.mpr (hitem _ (by decide))
    exact ((((hignoring _).append hcolumn).append (hignoring _)).append
      (Template.closed_text " ")).append hdirection

/-- A search refers to the ids, the condition and the sort order. -/
theorem findQuery_closed (hids : supply.Offers .ids) (hcondition : supply.Offers .condition)
    (hsort : supply.Offers .sort) (hquery : g.findQuery = .ok t) : t.Closed supply names := by
  rcases bind_eq_ok.mp hquery with ⟨keys, hkeys, hquery⟩
  rcases bind_eq_ok.mp hquery with ⟨conditions, hconditions, hquery⟩
  rcases bind_eq_ok.mp hquery with ⟨order, horder, hquery⟩
  cases hquery
  have hfilters : (keys ++ conditions).Closed supply names :=
    (guardedKeysMatch_closed hids hkeys).append (conditionBlock_closed hcondition hconditions)
  exact (((Template.closed_text _).append hfilters.whereClause).append
    (Template.closed_text _)).append (orderBy_closed hsort horder)

/-! ### Insertions and updates -/

/-- The selection of a key refers to nothing. -/
theorem insertKey_closed {key? : Option KeyInfo} (hkey : g.insertKey = .ok (t, key?)) :
    t.Closed supply names := by
  unfold insertKey at hkey
  split at hkey
  · split at hkey
    · cases hkey
      exact Template.closed_empty
    · rcases map_eq_ok.mp hkey with ⟨⟨select, timing⟩, hselect, heq⟩
      rcases map_eq_ok.mp hselect with ⟨⟨sql, found⟩, _, hmade⟩
      cases heq
      cases hmade
      exact (Template.closed_text sql).selectKey _ _ _ _
  · cases hkey
    exact Template.closed_empty

/-- An insertion reads the mapped paths of the entity. -/
theorem insertBody_closed {slots : List Slot} (hpaths : ∀ slot ∈ slots, supply.values slot.path)
    (selective : Bool) :
    (if selective then g.insertPresent slots else g.insertAll slots).Closed supply names := by
  have hvalue : ∀ slot ∈ slots, (typedValue slot.path slot.column).Closed supply names :=
    fun slot hslot => Template.closed_value (.inl (hpaths slot hslot)) _
  cases selective with
  | true =>
    have hcolumns : (commaList "(" (slots.map fun slot =>
        whenPresent slot.path (.text (g.column slot ++ ",")))).Closed supply names := by
      apply Template.Closed.trim
      apply Template.closed_concat
      intro part hpart
      rcases List.mem_map.mp hpart with ⟨slot, hslot, rfl⟩
      exact whenPresent_closed (.inl (hpaths slot hslot)) (Template.closed_text _)
    have hvalues : (commaList "values(" (slots.map fun slot =>
        whenPresent slot.path (typedValue slot.path slot.column ++ .text ","))).Closed
          supply names := by
      apply Template.Closed.trim
      apply Template.closed_concat
      intro part hpart
      rcases List.mem_map.mp hpart with ⟨slot, hslot, rfl⟩
      exact whenPresent_closed (.inl (hpaths slot hslot))
        ((hvalue slot hslot).append (Template.closed_text _))
    exact (((Template.closed_text _).append hcolumns).append (Template.closed_text _)).append hvalues
  | false =>
    have hvalues : (Template.join "," (slots.map fun slot =>
        typedValue slot.path slot.column)).Closed supply names := by
      apply Template.closed_join
      intro part hpart
      rcases List.mem_map.mp hpart with ⟨slot, hslot, rfl⟩
      exact hvalue slot hslot
    exact ((Template.closed_text _).append hvalues).append (Template.closed_text _)

/-- Assignments refer to members of the entity. -/
theorem assignments_closed (hentity : supply.Offers .entity) (selective : Bool)
    (slots : List Slot) : (g.assignments selective slots).Closed supply names := by
  have hassignment : ∀ slot, (g.assignment slot).Closed supply names := fun slot =>
    (Template.closed_text _).append
      (Template.closed_value (hentity.finds_member slot.path _) _)
  cases selective with
  | true =>
    apply Template.closed_concat
    intro part hpart
    rcases List.mem_map.mp hpart with ⟨slot, _, rfl⟩
    exact whenPresent_closed (hentity.finds_member slot.path _)
      ((hassignment slot).append (Template.closed_text _))
  | false =>
    apply Template.closed_join
    intro part hpart
    rcases List.mem_map.mp hpart with ⟨slot, _, rfl⟩
    exact hassignment slot

/-! ### All statements -/

/-- The parameters of a statement are offered to it. -/
theorem offers_of_mem {name : StatementName} {p : Parameter} (h : p.name ∈ name.parameters) :
    (g.supply name r).Offers p := fun _ hpath => .inl ⟨p.name, h, hpath⟩

/-- An insertion refers to the properties of its entity. -/
theorem insertStatement_closed {name : StatementName} {selective : Bool}
    (hname : name = .insert ∨ name = .insertSelective)
    (hs : g.insertStatement selective = .ok s) : s.body.Closed (g.supply name r) names := by
  rcases bind_eq_ok.mp hs with ⟨⟨select, key?⟩, hselect, hs⟩
  rcases bind_eq_ok.mp hs with ⟨slots, hslots, hs⟩
  cases hs
  apply (insertKey_closed hselect).append
  apply insertBody_closed
  intro slot hslot
  exact .inr ⟨slots, hslots, slot, hslot, .inl ⟨hname, rfl⟩⟩

/-- An update refers to its entity and, for a row by its key, to the id. -/
theorem updateStatement_closed {name : StatementName} {selective byId : Bool}
    (hentity : (g.supply name r).Offers .entity)
    (hid : byId = true → (g.supply name r).Offers .id)
    (hs : g.updateStatement selective byId = .ok s) : s.body.Closed (g.supply name r) names := by
  rcases bind_eq_ok.mp hs with ⟨condition, hcondition, hs⟩
  rcases bind_eq_ok.mp hs with ⟨slots, hslots, hs⟩
  cases hs
  have hmatch : condition.Closed (g.supply name r) names := by
    apply keyMatch_closed _ hcondition
    intro slots _ slot _ _
    cases byId with
    | false => exact hentity _ (startsAt_inside (parameter_plain .entity) slot.path)
    | true =>
      unfold KeySource.path
      simp only [if_true]
      split
      · exact hid rfl _ (startsAt_self (parameter_plain .id))
      · exact hid rfl _ (startsAt_inside (parameter_plain .id) slot.member)
  exact (((Template.closed_text _).append (assignments_closed hentity _ _).setClause).append
    (Template.closed_text _)).append hmatch

/-- A statement for one row reads the members of its key. -/
theorem keyMatch_parameter_closed {name : StatementName}
    (hname : name = .getById ∨ name = .deleteById) (hmatch : g.keyMatch .parameter = .ok t) :
    t.Closed (g.supply name r) names := by
  apply keyMatch_closed _ hmatch
  intro slots hslots slot hslot hkey
  exact .inr ⟨slots, hslots, slot, hslot, .inr ⟨hname, hkey, rfl⟩⟩

/-- A search refers to its parameters and, by pages, to the page. -/
theorem findStatement_closed {name : StatementName} {paged : Bool}
    (hids : (g.supply name r).Offers .ids) (hcondition : (g.supply name r).Offers .condition)
    (hsort : (g.supply name r).Offers .sort)
    (hpage : paged = true →
      (g.supply name r).Offers .offset ∧ (g.supply name r).Offers .pageSize)
    (hs : g.findStatement paged = .ok s) : s.body.Closed (g.supply name r) names := by
  rcases bind_eq_ok.mp hs with ⟨query, hquery, hs⟩
  cases hs
  have hclosed : query.Closed (g.supply name r) names :=
    findQuery_closed hids hcondition hsort hquery
  cases paged with
  | false => exact hclosed
  | true => exact g.dialect.window_closed (hpage rfl).1 (hpage rfl).2 hclosed

/-- The search by example includes the columns and the condition of example queries. -/
theorem findByExampleStatement_closed (companion : String)
    (hcolumns : r.contains (g.place .baseColumnList) = true)
    (hwhere : r.contains (g.place .exampleWhereClause) = true) :
    (g.findByExampleStatement companion).body.Closed (g.supply .findByExample r) names := by
  have hplain : ∀ name ∈ StatementName.findByExample.parameters, '.' ∉ name.toList := by decide
  have hparameter : ∀ name ∈ StatementName.findByExample.parameters,
      ∀ path ∈ [name], (g.supply .findByExample r).Finds names path :=
    fun name hname => List.forall_mem_singleton.mpr
      (.inl (.inl ⟨name, hname, startsAt_self (hplain name hname)⟩))
  have hdistinct : (Template.guard (.holds "distinct") (.text "distinct")).Closed
      (g.supply .findByExample r) names :=
    (Template.closed_text _).guard (hparameter "distinct" (by decide))
  have hincluded : (Template.guard (.notNull ["_parameter"])
      (.fragment StatementName.exampleWhereClause.id)).Closed (g.supply .findByExample r) names :=
    (Template.closed_fragment hwhere).guard (hparameter "_parameter" (by decide))
  have hclause : (Template.splice "orderByClause").Closed (g.supply .findByExample r) names := by
    apply Template.closed_splice
    rw [indexedPaths_of_plain (by decide)]
    exact hparameter "orderByClause" (by decide)
  have horder : (Template.guard (.notNull ["orderByClause"])
      (.text " order by " ++ .splice "orderByClause" ++ .text " ")).Closed
        (g.supply .findByExample r) names :=
    (((Template.closed_text _).append hclause).append (Template.closed_text _)).guard
      (hparameter "orderByClause" (by decide))
  have hselect := (((Template.closed_text "select ").append hdistinct).append
    (Template.closed_text " ")).append (Template.closed_fragment hcolumns)
  exact ((hselect.append (Template.closed_text _)).append hincluded).append horder

/-- A result map refers to nothing. -/
theorem resultMapStatement_closed (hs : g.resultMapStatement = .ok s) :
    s.body.Closed supply names := by
  rcases bind_eq_ok.mp hs with ⟨embedded, hembedded, hs⟩
  cases hs
  obtain rfl := associations_eq_associationsIn hembedded
  apply Template.Closed.append
  · apply Template.closed_concat
    intro part hpart
    rcases List.mem_map.mp hpart with ⟨p, _, rfl⟩
    exact Template.closed_result _ _ _ _
  · apply Template.closed_concat
    intro part hpart
    rcases List.mem_flatMap.mp hpart with ⟨p, _, hpart⟩
    rcases List.mem_map.mp hpart with ⟨e, _, rfl⟩
    apply Template.Closed.association
    apply Template.closed_concat
    intro part hpart
    rcases List.mem_map.mp hpart with ⟨member, _, rfl⟩
    exact Template.closed_result _ _ _ _

/-- Every statement refers to what is supplied to it, if the fragments of the search by example
are there. -/
theorem make_closed {companion : String} {name : StatementName}
    (hfragments : name = .findByExample → r.contains (g.place .baseColumnList) = true ∧
      r.contains (g.place .exampleWhereClause) = true)
    (hs : g.make companion name = .ok s) : s.body.Closed (g.supply name r) [] := by
  cases name with
  | resultMap => exact resultMapStatement_closed hs
  | baseColumnList =>
    rcases bind_eq_ok.mp hs with ⟨slots, _, hs⟩
    cases hs
    exact Template.closed_text _
  | insertSelective => exact insertStatement_closed (.inr rfl) hs
  | insert => exact insertStatement_closed (.inl rfl) hs
  | updateSelectiveById =>
    exact updateStatement_closed (offers_of_mem (by decide))
      (fun _ => offers_of_mem (by decide)) hs
  | updateSelective =>
    exact updateStatement_closed (offers_of_mem (by decide)) (fun h => by cases h) hs
  | updateById =>
    exact updateStatement_closed (offers_of_mem (by decide))
      (fun _ => offers_of_mem (by decide)) hs
  | update => exact updateStatement_closed (offers_of_mem (by decide)) (fun h => by cases h) hs
  | deleteById =>
    rcases bind_eq_ok.mp hs with ⟨condition, hmatch, hs⟩
    cases hs
    exact (Template.closed_text _).append (keyMatch_parameter_closed (.inr rfl) hmatch)
  | deleteByIds =>
    rcases bind_eq_ok.mp hs with ⟨condition, hmatch, hs⟩
    cases hs
    exact (Template.closed_text _).append (keysMatch_closed (offers_of_mem (by decide)) hmatch)
  | deleteAll =>
    cases hs
    exact Template.closed_text _
  | getById =>
    rcases bind_eq_ok.mp hs with ⟨condition, hmatch, hs⟩
    cases hs
    exact (Template.closed_text _).append (keyMatch_parameter_closed (.inl rfl) hmatch)
  | findByPager =>
    exact findStatement_closed (offers_of_mem (by decide)) (offers_of_mem (by decide))
      (offers_of_mem (by decide))
      (fun _ => ⟨offers_of_mem (by decide), offers_of_mem (by decide)⟩) hs
  | find =>
    exact findStatement_closed (offers_of_mem (by decide)) (offers_of_mem (by decide))
      (offers_of_mem (by decide)) (fun h => by cases h) hs
  | countAll =>
    cases hs
    exact Template.closed_text _
  | count =>
    rcases bind_eq_ok.mp hs with ⟨conditions, hconditions, hs⟩
    cases hs
    exact (Template.closed_text _).append
      (conditionBlock_closed (offers_of_mem (by decide)) hconditions).whereClause
  | exampleWhereClause =>
    cases hs
    exact exampleWhere_closed (.inl ⟨_, List.mem_cons_self, by decide⟩)
  | findByExample =>
    cases hs
    rcases hfragments rfl with ⟨hcolumns, hwhere⟩
    exact findByExampleStatement_closed companion hcolumns hwhere

/-- A statement names no result map but the one of its repository. -/
theorem make_resultMap {companion : String} {name : StatementName}
    (hs : g.make companion name = .ok s) :
    s.resultMap? = none ∨ s.resultMap? = some StatementName.resultMap.id := by
  cases name with
  | insertSelective | insert | updateSelectiveById | updateSelective | updateById | update =>
    rcases bind_eq_ok.mp hs with ⟨_, _, hs⟩
    rcases bind_eq_ok.mp hs with ⟨_, _, hs⟩
    cases hs
    exact .inl rfl
  | resultMap | baseColumnList | deleteById | deleteByIds | count =>
    rcases bind_eq_ok.mp hs with ⟨_, _, hs⟩
    cases hs
    exact .inl rfl
  | deleteAll | countAll | exampleWhereClause =>
    cases hs
    exact .inl rfl
  | getById | findByPager | find =>
    rcases bind_eq_ok.mp hs with ⟨_, _, hs⟩
    cases hs
    exact .inr rfl
  | findByExample =>
    cases hs
    exact .inr rfl

end Generator

namespace Generator

variable {g : Generator} {r after : Registry} {o : Outcome} {s : Statement}

/-! ## Runs -/

/-- What applies to the repository is registered after a run, whoever registered it. -/
theorem contains_of_run (hrun : g.run r = .ok (o, after)) {name : StatementName}
    (happlies : g.Applies name) : after.contains (g.place name) = true := by
  rcases taken_of_run hrun happlies with ⟨found, hfound⟩
  rw [SortedMap.contains, hfound]
  rfl

/-- A name that needs neither a key nor an example applies to every repository. -/
theorem applies_of_plain {name : StatementName} (hkeyed : name ∉ StatementName.keyed)
    (hexemplary : name ∉ StatementName.exemplary) : g.Applies name :=
  ⟨fun h => absurd h hkeyed, fun h => absurd h hexemplary⟩

/-- Every new statement refers to what is supplied to it after the run. -/
theorem closed_of_run (hrun : g.run r = .ok (o, after)) (hs : s ∈ o.statements) :
    ∃ name, s.id = name.id ∧ (∃ companion, g.make companion name = .ok s) ∧
      s.body.Closed (g.supply name after) [] := by
  rcases make_of_mem_run hrun hs with ⟨name, hexample, hid, companion, hmade⟩
  refine ⟨name, hid, ⟨companion, hmade⟩, make_closed ?_ hmade⟩
  rintro rfl
  have hwhere : g.Applies .exampleWhereClause :=
    ⟨fun h => absurd h (by decide), fun _ => hexample (by decide)⟩
  exact ⟨contains_of_run hrun (applies_of_plain (by decide) (by decide)),
    contains_of_run hrun hwhere⟩

/-- After a successful run every new statement finds its result map registered in its namespace.
The references that generation puts into its body have a root, the fragments that it includes are
registered, and its SQL depends on the roots alone.  If no text of the metadata has an element or a
reference of its own, this is all that is read from the printed statement. -/
theorem run_closed (hrun : g.run r = .ok (o, after)) :
    ∀ s ∈ o.statements,
      s.namespaceName = g.repository.namespaceName ∧
      (∀ id ∈ s.resultMap?, after.contains ⟨s.namespaceName, id⟩ = true) ∧
      (∀ id ∈ s.body.fragments, after.contains ⟨s.namespaceName, id⟩ = true) ∧
      ∃ name : StatementName, s.id = name.id ∧
        (∀ m ∈ s.body.mentions [], g.Roots name m) ∧
        (∀ p q : Json,
          (∀ path, g.Roots name ⟨path, []⟩ → (Scope.of p).value path = (Scope.of q).value path) →
          s.body.evaluate p = s.body.evaluate q) ∧
        (g.IsLegible → ∃ t, Statement.body? s.render = some t ∧
          (∀ id ∈ t.fragments, after.contains ⟨s.namespaceName, id⟩ = true) ∧
          (∀ m ∈ t.mentions [], g.Roots name m) ∧
          ∀ p, t.evaluate p = s.body.evaluate p) := by
  intro s hs
  rcases closed_of_run hrun hs with ⟨name, hid, ⟨companion, hmade⟩, hclosed⟩
  have hns : s.namespaceName = g.repository.namespaceName := (free_of_mem_run hrun hs).1
  have hroots : ∀ m ∈ s.body.mentions [], g.Roots name m := fun m hm =>
    roots_of_finds (hclosed.values m hm)
  have hfragments : ∀ id ∈ s.body.fragments, after.contains ⟨s.namespaceName, id⟩ = true := by
    intro id hfragment
    rw [hns]
    exact hclosed.fragments id hfragment
  refine ⟨hns, ?_, hfragments, name, hid, hroots, ?_, ?_⟩
  · intro id hresult
    rw [hns]
    rcases make_resultMap hmade with hnone | hsome
    · rw [hnone] at hresult
      cases hresult
    · rw [hsome] at hresult
      cases hresult
      exact contains_of_run hrun (applies_of_plain (by decide) (by decide))
  · intro p q hvalues
    exact hclosed.eval_congr fun path hpath => hvalues path (roots_of_finds hpath)
  · intro hlegible
    rcases hlegible.body?_of_run hrun hs with ⟨t, ht, hlike⟩
    refine ⟨t, ht, ?_, ?_, hlike.evaluate⟩
    · rwa [hlike.fragments]
    · rwa [hlike.mentions]

/-- The eighteen statements of the shelves are read back, and refer to nothing that is missing. -/
theorem run_closed_shelves :
    shelves.IsLegible ∧
    ∃ o after, shelves.run .empty = .ok (o, after) ∧ o.statements.length = 18 ∧
      ∀ s ∈ o.statements,
        (∀ id ∈ s.resultMap?, after.contains ⟨s.namespaceName, id⟩ = true) ∧
        ∃ name : StatementName, s.id = name.id ∧ ∃ t, Statement.body? s.render = some t ∧
          (∀ id ∈ t.fragments, after.contains ⟨s.namespaceName, id⟩ = true) ∧
          (∀ m ∈ t.mentions [], shelves.Roots name m) ∧
          ∀ p, t.evaluate p = s.body.evaluate p := by
  have hlegible : shelves.IsLegible := ⟨by decide, by decide, by decide⟩
  rcases exists_run_of_isOk
    (by decide : (shelves.buildAll .empty StatementName.all).isOk = true) with ⟨o, after, hrun⟩
  refine ⟨hlegible, o, after, hrun, (length_of_run hrun).trans (by decide), ?_⟩
  intro s hs
  rcases run_closed hrun s hs with ⟨_, hresult, _, name, hid, _, _, hprint⟩
  exact ⟨hresult, name, hid, hprint hlegible⟩

/-! ## Notes with references of their own -/

/-- Notes with a condition on their title. -/
def notes (condition : Condition) : Generator :=
  let title := { Property.plain .basic "title" "String" ⟨.plain "title", .varchar⟩ with
    conditions := [condition] }
  let entity : Entity := { Entity.plain "app::Note" "notes" with properties := [title] }
  { catalog := Catalog.add .empty entity
    dialect := .postgres
    repository := ⟨"app::Notes", "app::Note", false⟩
    entity
    defaultSequence := "note_seq" }

/-- A count of notes with a test and a comparison. -/
def countOf (test : Test) (comparison : Template) : Template :=
  .text "select count(*) from notes " ++
    .whereClause (.guard (.notNull [Parameter.condition.name])
      (.guard test (.text " and " ++ comparison)))

/-- A count that is printed like a legible template is read as that template. -/
theorem read_count {u : Template} (hbuilt : (g.buildAll .empty StatementName.all).isOk = true)
    (hmake : g.countStatement = .ok s) (hu : u.Follows Rule.legible)
    (hprint : s.body.print = u.print) :
    ∃ o after t, g.run .empty = .ok (o, after) ∧ s ∈ o.statements ∧
      s.id = StatementName.count.id ∧ Statement.body? s.render = some t ∧ t.Equivalent u := by
  rcases exists_run_of_isOk hbuilt with ⟨o, after, hrun⟩
  have hgenerates : g.Generates .empty .count :=
    ⟨rfl, fun h => absurd h (by decide), fun h => absurd h (by decide)⟩
  rcases exists_made_of_generates hrun hgenerates with ⟨made, hmem, hid, companion, hmade⟩
  obtain rfl : s = made := Except.ok.inj (hmake.symm.trans hmade)
  rcases Statement.body?_render_of_print hu hprint with ⟨t, ht, hlike⟩
  exact ⟨o, after, t, hrun, hmem, hid, ht, hlike⟩

/-- The print of a count refers to a value without a root. -/
def CountEscapes (g : Generator) : Prop :=
  ∃ o after s t, g.run .empty = .ok (o, after) ∧ s ∈ o.statements ∧
    s.id = StatementName.count.id ∧ Statement.body? s.render = some t ∧
    ∃ m ∈ t.mentions [], ¬ g.Roots .count m

/-- The print of a count includes a fragment that is not registered. -/
def CountMisses (g : Generator) : Prop :=
  ∃ o after s t, g.run .empty = .ok (o, after) ∧ s ∈ o.statements ∧
    s.id = StatementName.count.id ∧ Statement.body? s.render = some t ∧
    ∃ id ∈ t.fragments, after.contains ⟨s.namespaceName, id⟩ = false

/-- A count does not read a parameter of any other name. -/
theorem countEscapes_of_print {u : Template}
    (hbuilt : (g.buildAll .empty StatementName.all).isOk = true)
    (hmake : g.countStatement = .ok s) (hu : u.Follows Rule.legible)
    (hprint : s.body.print = u.print) (hmention : ⟨"evil", []⟩ ∈ u.mentions []) :
    g.CountEscapes := by
  rcases read_count hbuilt hmake hu hprint with ⟨o, after, t, hrun, hmem, hid, ht, hlike⟩
  refine ⟨o, after, s, t, hrun, hmem, hid, ht, ⟨"evil", []⟩, ?_, ?_⟩
  · rwa [hlike.mentions]
  · rintro (⟨p, hp, hstarts⟩ | ⟨slots, _, slot, _, ⟨hname | hname, _⟩ | ⟨hname | hname, _⟩⟩ |
      ⟨given, hgiven, _⟩)
    · exact absurd hstarts (by revert p; decide)
    · cases hname
    · cases hname
    · cases hname
    · cases hname
    · cases hgiven

/-- After a run on an empty registry only the statements of the run are there. -/
theorem countMisses_of_print {u : Template}
    (hbuilt : (g.buildAll .empty StatementName.all).isOk = true)
    (hmake : g.countStatement = .ok s) (hu : u.Follows Rule.legible)
    (hprint : s.body.print = u.print) (hfragment : "nowhere" ∈ u.fragments) :
    g.CountMisses := by
  rcases read_count hbuilt hmake hu hprint with ⟨o, after, t, hrun, hmem, hid, ht, hlike⟩
  refine ⟨o, after, s, t, hrun, hmem, hid, ht, "nowhere", ?_, ?_⟩
  · rwa [hlike.fragments]
  · rw [SortedMap.contains_eq_false_iff]
    cases hfound : after.get? ⟨s.namespaceName, "nowhere"⟩ with
    | none => rfl
    | some found =>
      rcases (get?_after_run hrun).mp hfound with hold | ⟨hnew, hkey⟩
      · cases hold
      · rcases make_of_mem_run hrun hnew with ⟨name, _, hname, _⟩
        have hother : ∀ name : StatementName, "nowhere" ≠ name.id := by
          intro name
          cases name <;> decide
        exact absurd ((congrArg StatementKey.id hkey).trans hname) (hother name)

/-- Texts of the metadata bring references of their own into a count: an expression that is compared
brings in a bound value, a test or a fragment, and an operand a further test. -/
theorem notes_open_references :
    (notes ⟨.simpleProperty, .never, some "coalesce(title, #\x7bevil\x7d)", []⟩).CountEscapes ∧
    (notes ⟨.simpleProperty, .never, some "<if test=\"evil\">title</if>", []⟩).CountEscapes ∧
    (notes ⟨.isNull, .never, none, ["title != null and evil"]⟩).CountEscapes ∧
    (notes ⟨.simpleProperty, .never, some "<include refid=\"nowhere\"/>", []⟩).CountMisses := by
  refine ⟨?_, ?_, ?_, ?_⟩
  · let u := countOf (.notNull ["__condition.title"])
      (.text "coalesce(title, " ++ .value "evil" none ++ .text ") = " ++
        .value "__condition.title" none)
    exact countEscapes_of_print (u := u) (by decide) rfl (by decide) (by decide +kernel) (by decide)
  · let u := countOf (.notNull ["__condition.title"])
      (.guard (.holds "evil") (.text "title") ++ .text " = " ++ .value "__condition.title" none)
    exact countEscapes_of_print (u := u) (by decide) rfl (by decide) (by decide +kernel) (by decide)
  · let u := countOf (.notNull ["__condition.title", "evil"]) (.text "title  is null")
    exact countEscapes_of_print (u := u) (by decide) rfl (by decide) (by decide +kernel) (by decide)
  · let u := countOf (.notNull ["__condition.title"])
      (.fragment "nowhere" ++ .text " = " ++ .value "__condition.title" none)
    exact countMisses_of_print (u := u) (by decide) rfl (by decide) (by decide +kernel) (by decide)

end Generator

end EntityMapping
