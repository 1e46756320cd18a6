import EntityMapping.Proofs.Keys.Addressing
import EntityMapping.Proofs.Search.Grammar
import EntityMapping.Proofs.Search.Precedence

/-!
# Rows by a list of simple keys

The deletion and the search that are given a list of ids compare the column of a simple key
with the list.  With ids the clause is grammatical and selects the rows that have one of them,
and of these the search finds the ones that satisfy the active conditions.  Without ids the
loop over the list leaves nothing behind, not even brackets, and the clause ends in an operator.

Main results:

- `Generator.read_keyedConditions_simple`: how the clause of the search is read.
- `Generator.givenIds_select`: the clauses are grammatical exactly if there are ids, and then
  they select the rows that have one of them.
- `Generator.givenIds_empty_users`: with an empty list both statements of an entity are
  ungrammatical.
-/

namespace EntityMapping

/-! ## Rows -/

/-- What is true of a row: atomic conditions, given by their tokens.  To be among values is to
be equal to one of them. -/
structure RowTruth where
  holds : List Token → Prop
  among : ∀ (left : List Token) (values : List Json), values ≠ [] →
    (holds (amongTokens left values) ↔ ∃ v ∈ values, holds (left ++ [.sign '=', .bound v none]))

/-- What is true of a row of a table. -/
def TableRow.truth (row : TableRow) : RowTruth where
  holds := row.satisfies
  among left values hne := by
    rw [amongTokens_of_ne_nil left hne, TableRow.satisfies_list left hne]
    simp only [TableRow.satisfies_equality]

/-- The comparison with a list is one exactly if the list has items. -/
theorem compares_amongTokens_iff {left : List Token} (hleft : Side left) (values : List Json) :
    Compares (amongTokens left values) ↔ values ≠ [] := by
  constructor
  · rintro hcompares rfl
    exact not_compares_of_separator left (by decide) hcompares
  · intro hne
    have hlist : Compares (left ++ [.word "in".toList] ++ bracketed (valueTokens values)) := by
      refine .list hleft (by decide) (by simpa using hne) fun ts hts => ?_
      obtain ⟨v, _, rfl⟩ := List.mem_map.mp hts
      exact side_bound v none
    rw [amongTokens_of_ne_nil left hne]
    simpa using hlist

namespace Generator

open Generation

variable {g : Generator} {p : Property} {ids : List Json} {search : Json} {q : Request}

/-! ## Clauses -/

/-- The column of a key, as a side of a comparison. -/
def sideTokens (g : Generator) (p : Property) : List Token :=
  (Sql.text (p.column.name.render g.dialect)).lex

/-- The row has the id. -/
def HasId (g : Generator) (p : Property) (row : RowTruth) (id : Json) : Prop :=
  row.holds (g.sideTokens p ++ [.sign '=', .bound id none])

/-- The filter of a simple key shows its operator, with ids and without. -/
theorem idsSql_visible (hkey : g.entity.key = .simple p) (ids : List Json) :
    (g.idsSql ids).IsVisible := by
  have hoperator : (Sql.text " in ").IsVisible := by decide
  rw [idsSql_simple hkey, Sql.text_append]
  exact (hoperator.append_right _).append_left _

/-- A list of ids has the tokens of its column and, behind the operator, those of its values. -/
theorem lex_idsSql (hkey : g.entity.key = .simple p)
    (hcolumn : IsSide (p.column.name.render g.dialect)) (ids : List Json) :
    (g.idsSql ids).lex = amongTokens (g.sideTokens p) ids := by
  obtain ⟨left, hleft, _⟩ := hcolumn
  rw [(spells_idsSql_simple hkey hleft ids).lex_eq, sideTokens, hleft.lex_eq]

/-- The filter of a simple key is a comparison exactly if there are ids. -/
theorem compares_idsSql_iff (hkey : g.entity.key = .simple p)
    (hcolumn : IsSide (p.column.name.render g.dialect)) (ids : List Json) :
    Compares (g.idsSql ids).lex ↔ ids ≠ [] := by
  rw [lex_idsSql hkey hcolumn]
  obtain ⟨left, hleft, hside⟩ := hcolumn
  rw [sideTokens, hleft.lex_eq]
  exact compares_amongTokens_iff hside ids

/-- The rows of the filter of a simple key are those that have one of the ids. -/
theorem holds_idsSql_iff (hkey : g.entity.key = .simple p)
    (hcolumn : IsSide (p.column.name.render g.dialect)) (hne : ids ≠ []) (row : RowTruth) :
    row.holds (g.idsSql ids).lex ↔ ∃ id ∈ ids, g.HasId p row id := by
  rw [lex_idsSql hkey hcolumn]
  exact row.among _ ids hne

section Conditions

variable (hkey : g.entity.key = .simple p) (hcolumn : IsSide (p.column.name.render g.dialect))
  (hconditions : ∀ pc ∈ conditionsOf g.entity, IsSide (comparedColumn pc.1 pc.2 g.dialect))

include hkey hcolumn hconditions in
/-- The filters of a search by ids are atomic conditions. -/
theorem isAtomic_keyedFilters (ids : List Json) (search : Json) :
    ∀ filter ∈ g.idsSql ids :: g.activeFilters search, filter.IsAtomic := by
  intro filter hfilter
  rcases List.mem_cons.mp hfilter with rfl | hfilter
  · exact isAtomic_idsSql_simple hkey hcolumn.isOperand ids
  · obtain ⟨pc, hpc, rfl⟩ := List.mem_map.mp hfilter
    exact isAtomic_predicate (hconditions pc (List.mem_filter.mp hpc).1).isOperand

include hkey hcolumn hconditions in
/-- The clause of a search by simple keys is read as the conjunction of its filters. -/
theorem read_keyedConditions_simple (ids : List Json) (search : Json) :
    read? (g.keyedConditions ids search).lex =
      some (.all ((g.idsSql ids :: g.activeFilters search).map atomOf)) := by
  have hatomic := isAtomic_keyedFilters hkey hcolumn hconditions ids search
  have hspells :=
    (Sql.spells_joined fun filter hfilter => (hatomic filter hfilter).spells).trimEnd
  rw [List.map_id'] at hspells
  rw [keyedConditions, hspells.lex_eq]
  exact (reads_joined (List.cons_ne_nil _ _) hatomic).read?_eq

include hkey hcolumn hconditions in
/-- The clause of a search by simple keys is grammatical exactly if there are ids and no active
condition compares with a list without items. -/
theorem grammatical_keyedConditions_iff (ids : List Json) (search : Json) :
    Grammatical (g.keyedConditions ids search) ↔ ids ≠ [] ∧
      ∀ pc ∈ conditionsOf g.entity, isActive search pc = true → HasItems search pc := by
  rw [keyedConditions, grammatical_joined (List.cons_ne_nil _ _)
    (isAtomic_keyedFilters hkey hcolumn hconditions ids search), List.forall_mem_cons,
    compares_idsSql_iff hkey hcolumn]
  refine and_congr_right fun _ => ?_
  rw [activeFilters, activePredicates, List.forall_mem_map]
  simp only [List.mem_filter, and_imp]
  exact forall_congr' fun pc => forall_congr' fun hpc => forall_congr' fun _ =>
    compares_predicateSql_iff (hconditions pc hpc)

end Conditions

/-! ## Statements -/

/-- The clause of a search by simple keys, with ids and without. -/
theorem evaluate_find_simple {find : Statement} {slots : List Slot}
    (hkey : g.entity.key = .simple p) (hslots : g.slots = .ok slots)
    (hfind : g.findStatement false = .ok find) (hids : q.ids? = some ids) :
    find.body.evaluate q.json = Sql.text ("select * from " ++ g.table ++ " ") ++
      (Sql.text "where " ++ g.keyedConditions ids (q.valueOf .condition)) ++ Sql.text " " ++
        g.orderingSql slots q.sorting? := by
  obtain ⟨query, hquery, hfind⟩ := bind_eq_ok.mp hfind
  cases hfind
  have hfilters : g.keyFilters q.ids? = [g.idsSql ids] := by
    rw [keyFilters_of_key (by simp [hkey]), hids]
    rfl
  have hvisible : ∀ filter ∈ g.idsSql ids :: g.activeFilters (q.valueOf .condition),
      filter.IsVisible := by
    intro filter hfilter
    rcases List.mem_cons.mp hfilter with rfl | hfilter
    · exact idsSql_visible hkey ids
    · exact activeFilters_visible _ filter hfilter
  have hevaluate := (yields_findQuery_led hslots hquery (q := q)).evaluate
  rw [ledFilters, hfilters, List.singleton_append, Sql.whereOf_led hvisible] at hevaluate
  exact hevaluate

/-- The deletion and the search by a list of simple keys.  Their clauses are grammatical exactly
if there are ids, where the conditions of the search are; then the deletion selects the rows
that have one of the ids, and the search those of them that satisfy the active conditions. -/
theorem givenIds_select (hkey : g.entity.key = .simple p)
    (hcolumn : IsSide (p.column.name.render g.dialect)) :
    ∃ delete, g.deleteByIdsStatement = .ok delete ∧
      (∀ (q : Request) (ids : List Json), q.ids? = some ids →
        delete.body.evaluate q.json = g.deletionSql (g.idsSql ids) ∧
        (Grammatical (g.idsSql ids) ↔ ids ≠ []) ∧
        (ids ≠ [] → ∃ formula, read? (g.idsSql ids).lex = some formula ∧
          ∀ row : RowTruth, formula.holds row.holds ↔ ∃ id ∈ ids, g.HasId p row id)) ∧
      ∀ find, g.findStatement false = .ok find →
        (∀ pc ∈ conditionsOf g.entity, IsSide (comparedColumn pc.1 pc.2 g.dialect)) →
        ∃ slots, g.slots = .ok slots ∧
        ∀ (q : Request) (ids : List Json), q.ids? = some ids →
          let search := q.valueOf .condition
          find.body.evaluate q.json = Sql.text ("select * from " ++ g.table ++ " ") ++
            (Sql.text "where " ++ g.keyedConditions ids search) ++ Sql.text " " ++
              g.orderingSql slots q.sorting? ∧
          (Grammatical (g.keyedConditions ids search) ↔ ids ≠ [] ∧
            ∀ pc ∈ conditionsOf g.entity, isActive search pc = true → HasItems search pc) ∧
          (ids ≠ [] → ∃ formula, read? (g.keyedConditions ids search).lex = some formula ∧
            ∀ row : RowTruth, formula.holds row.holds ↔
              (∃ id ∈ ids, g.HasId p row id) ∧ g.Satisfies row.holds search) := by
  have hkeyed : g.entity.key ≠ .none := by simp [hkey]
  obtain ⟨delete, hdelete⟩ := not_fails_iff.mp
    ((fails_deleteByIdsStatement_iff hkeyed).not.mpr fun hfault => hfault.1 p hkey)
  have hatomic := isAtomic_idsSql_simple hkey hcolumn.isOperand
  refine ⟨delete, hdelete, fun q ids hids => ⟨evaluate_deleteByIds hdelete hids, ?_, ?_⟩, ?_⟩
  · rw [grammatical_atom (hatomic ids)]
    exact compares_idsSql_iff hkey hcolumn ids
  · intro hne
    exact ⟨_, (hatomic ids).readsAs.reads.read?_eq, holds_idsSql_iff hkey hcolumn hne⟩
  · intro find hfind hconditions
    obtain ⟨query, hquery, _⟩ := bind_eq_ok.mp hfind
    obtain ⟨slots, hslots⟩ := exists_slots_of_findQuery hquery
    refine ⟨slots, hslots, fun q ids hids => ⟨evaluate_find_simple hkey hslots hfind hids,
      grammatical_keyedConditions_iff hkey hcolumn hconditions ids _, fun hne => ?_⟩⟩
    refine ⟨_, read_keyedConditions_simple hkey hcolumn hconditions ids _, fun row => ?_⟩
    rw [Formula.holds_all (by simp), List.map_cons, List.forall_mem_cons]
    refine and_congr (holds_idsSql_iff hkey hcolumn hne row) ?_
    simp [Satisfies, atomOf, Formula.holds]

/-! ## Users by their ids -/

/-- The id of a user. -/
def userId : Property := Property.plain .id "id" "i64" ⟨.plain "id", .bigint⟩

/-- The key of a user is simple. -/
theorem users_key : users.entity.key = .simple userId := by decide

/-- The column of that key is a side. -/
theorem users_id_isSide : IsSide (userId.column.name.render users.dialect) :=
  isSide_word (by decide : "id" ≠ "") (by decide) (by decide)

/-- So are the columns of the conditions on users. -/
theorem users_conditions_areSides :
    ∀ pc ∈ conditionsOf users.entity, IsSide (comparedColumn pc.1 pc.2 users.dialect) := by
  intro pc hpc
  have hcolumns : (conditionsOf users.entity).map
      (fun pc => comparedColumn pc.1 pc.2 users.dialect) = ["name", "age", "status"] := by
    decide
  have hmem : comparedColumn pc.1 pc.2 users.dialect ∈ ["name", "age", "status"] :=
    hcolumns ▸ List.mem_map_of_mem hpc
  simp only [List.mem_cons, List.not_mem_nil, or_false] at hmem
  rcases hmem with hname | hname | hname
  all_goals
    rw [hname]
    exact isSide_word (by decide) (by decide) (by decide)

/-- A request for ids alone. -/
def idsRequest (ids : List Json) : Request := Request.empty.apply (.ids ids)

/-- Two users are deleted and found by their ids. -/
theorem givenIds_select_users : ∃ delete find, users.deleteByIdsStatement = .ok delete ∧
    users.findStatement false = .ok find ∧
    delete.body.evaluate (idsRequest [.int 1, .int 2]).json =
      Sql.text "delete from users where id in (" ++ [.bound (.int 1) none] ++ Sql.text "," ++
        [.bound (.int 2) none] ++ Sql.text ")" ∧
    find.body.evaluate (idsRequest [.int 1, .int 2]).json =
      Sql.text "select * from users where id in (" ++ [.bound (.int 1) none] ++ Sql.text "," ++
        [.bound (.int 2) none] ++ Sql.text ") " ∧
    Grammatical (users.idsSql [.int 1, .int 2]) ∧
    Grammatical (users.keyedConditions [.int 1, .int 2] .null) := by
  obtain ⟨find, hfind⟩ :=
    isOk_iff.mp (by decide : (users.findStatement false).isOk = true)
  obtain ⟨delete, hdelete, hdeletion, hsearch⟩ := givenIds_select users_key users_id_isSide
  obtain ⟨slots, hslots, hsearch⟩ := hsearch find hfind users_conditions_areSides
  have hids : (idsRequest [.int 1, .int 2]).ids? = some [.int 1, .int 2] := rfl
  obtain ⟨htextDelete, hgrammarDelete, _⟩ := hdeletion _ _ hids
  obtain ⟨htextFind, hgrammarFind, _⟩ := hsearch _ _ hids
  refine ⟨delete, find, hdelete, hfind, htextDelete, htextFind,
    hgrammarDelete.mpr (by simp), hgrammarFind.mpr ⟨by simp, fun pc _ hactive => ?_⟩⟩
  -- Without a search object no condition is active.
  have hinactive := List.filter_eq_nil_iff.mp
    (List.map_eq_nil_iff.mp (activePredicates_null .postgres [pc])) pc (by simp)
  exact absurd hactive hinactive

/-- With an empty list of ids the deletion and the search end in an operator. -/
theorem givenIds_empty_users : ∃ delete find, users.deleteByIdsStatement = .ok delete ∧
    users.findStatement false = .ok find ∧
    delete.body.evaluate (idsRequest []).json =
      Sql.text "delete from users where " ++ Sql.text "id in " ∧
    find.body.evaluate (idsRequest []).json =
      Sql.text "select * from users " ++ (Sql.text "where " ++ Sql.text "id in") ++
        Sql.text " " ∧
    ¬ Grammatical (Sql.text "id in ") ∧ ¬ Grammatical (Sql.text "id in") := by
  obtain ⟨delete, hdelete⟩ := isOk_iff.mp (by decide : users.deleteByIdsStatement.isOk = true)
  obtain ⟨find, hfind⟩ := isOk_iff.mp (by decide : (users.findStatement false).isOk = true)
  obtain ⟨slots, hslots⟩ := isOk_iff.mp (by decide : users.slots.isOk = true)
  have hdeletion : users.idsSql [] = Sql.text "id in " := rfl
  have hsearch : users.keyedConditions [] .null = Sql.text "id in" := rfl
  have hids : (idsRequest []).ids? = some [] := rfl
  have htextFind := evaluate_find_simple users_key hslots hfind hids
  have hcondition : (idsRequest []).valueOf .condition = .null := rfl
  have hordering : users.orderingSql slots (idsRequest []).sorting? = [] := rfl
  rw [hcondition, hsearch, hordering, List.append_nil] at htextFind
  have htextDelete := evaluate_deleteByIds hdelete hids
  rw [hdeletion] at htextDelete
  refine ⟨delete, find, hdelete, hfind, ?_, ?_, ?_, ?_⟩
  · exact htextDelete
  · exact htextFind
  · have hatomic := isAtomic_idsSql_simple users_key users_id_isSide.isOperand []
    rw [← hdeletion, grammatical_atom hatomic, compares_idsSql_iff users_key users_id_isSide]
    exact fun hne => hne rfl
  · rw [← hsearch, grammatical_keyedConditions_iff users_key users_id_isSide
      users_conditions_areSides]
    exact fun hne => hne.1 rfl

end Generator

end EntityMapping
