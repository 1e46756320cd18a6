import EntityMapping.Proofs.Search.Find
import EntityMapping.Proofs.Search.Tokens

/-!
# Searches by a key of several columns

How a database reads the clause of a search by ids of several columns next to conditions.
The alternatives for the ids stand beside the conditions without brackets around them, and
`and` binds tighter than `or`: the conditions restrict the rows of the last id only.

Main results:

- `Generator.read_keyedConditions`: the formula that the clause is read as.
- `Generator.search_precedence`: the rows that satisfy it, and exactly when they are the rows
  that have one of the ids and satisfy the conditions.
-/

namespace EntityMapping.Generator

open Generation

variable {g : Generator} {q : Request} {init : List Json} {last : Json} {search : Json}

/-! ## The clause -/

/-- The conditions of a search by ids of several columns. -/
def keyedConditions (g : Generator) (ids : List Json) (search : Json) : Sql :=
  Sql.trimEnd (Sql.join " and " (g.idsSql ids :: g.activeFilters search))

/-- The columns that a search compares are operands. -/
structure HasOperands (g : Generator) : Prop where
  key : ∀ s ∈ g.keyParts, IsOperand (g.column s)
  conditions : ∀ pc ∈ conditionsOf g.entity, IsOperand (comparedColumn pc.1 pc.2 g.dialect)

/-- A key of several columns is there, and is not simple. -/
theorem key_of_composite (h : g.entity.hasCompositeKey = true) :
    g.entity.key ≠ .none ∧ ∀ p, g.entity.key ≠ .simple p := by
  unfold Entity.hasCompositeKey at h
  constructor
  · intro hnone
    rw [hnone] at h
    cases h
  · intro p hsimple
    rw [hsimple] at h
    cases h

/-- Every active filter is one atomic condition. -/
theorem isAtomic_activeFilters (h : g.HasOperands) :
    ∀ filter ∈ g.activeFilters search, filter.IsAtomic := by
  intro filter hfilter
  obtain ⟨pc, hpc, rfl⟩ := List.mem_map.mp hfilter
  exact isAtomic_predicate (h.conditions pc (List.mem_filter.mp hpc).1)

/-! ## What the clause says -/

/-- The atomic condition of a filter. -/
def atomOf (sql : Sql) : Formula := .atom sql.lex

/-- The formula of the clause: the conditions belong to the last id. -/
def keyedFormula (g : Generator) (init : List Json) (last : Json) (search : Json) : Formula :=
  .any (init.map g.idFormula ++
    [.all (g.idFormula last :: (g.activeFilters search).map atomOf)])

/-- What is joined to the end of alternatives is joined to the last of them. -/
theorem intercalate_alternatives (c d : Token) (first : List (List Token)) (final : List Token)
    (rest : List (List Token)) :
    [c].intercalate ([d].intercalate (first ++ [final]) :: rest) =
      [d].intercalate (first ++ [[c].intercalate (final :: rest)]) := by
  induction first with
  | nil => simp
  | cons x others ih =>
    have hlead : ∀ (front : List Token) (y : List Token) (ys : List (List Token)),
        [c].intercalate ((front ++ y) :: ys) = front ++ [c].intercalate (y :: ys) := by
      intro front y ys
      cases ys with
      | nil => simp
      | cons z zs => simp [List.intercalate_cons_cons]
    have hfirst : [d].intercalate (x :: (others ++ [final])) =
        x ++ [d] ++ [d].intercalate (others ++ [final]) :=
      List.intercalate_cons_of_ne_nil (by simp)
    have hsecond : [d].intercalate (x :: (others ++ [[c].intercalate (final :: rest)])) =
        x ++ [d] ++ [d].intercalate (others ++ [[c].intercalate (final :: rest)]) :=
      List.intercalate_cons_of_ne_nil (by simp)
    rw [List.cons_append, List.cons_append, hfirst, hsecond, hlead, ih]

/-- The clause is read as a disjunction in which the conditions belong to the last id. -/
theorem read_keyedConditions (hkey : ∀ p, g.entity.key ≠ .simple p) (hparts : g.keyParts ≠ [])
    (h : g.HasOperands) :
    read? (g.keyedConditions (init ++ [last]) search).lex =
      some (g.keyedFormula init last search) := by
  let alternative (id : Json) : List Token × Formula := (bracketed (g.idTokens id), g.idFormula id)
  let conditions : List (List Token × Formula) :=
    (g.activeFilters search).map fun filter => (filter.lex, atomOf filter)
  let groups : List (List (List Token × Formula)) :=
    init.map (fun id => [alternative id]) ++ [alternative last :: conditions]
  have hids : (g.idsSql (init ++ [last])).Spells
      ([disj].intercalate ((init ++ [last]).map fun id => bracketed (g.idTokens id))) :=
    spells_idsSql h.key hparts (by simp) hkey
  have hspells : ∀ sql ∈ g.idsSql (init ++ [last]) :: g.activeFilters search,
      sql.Spells sql.lex := by
    intro sql hsql
    rcases List.mem_cons.mp hsql with rfl | hsql
    · rw [hids.lex_eq]
      exact hids
    · exact (isAtomic_activeFilters h sql hsql).spells
  have hjoined := Sql.spells_joined hspells
  rw [List.map_id'] at hjoined
  -- The conditions are joined to the alternatives as a whole, and that is to the last of them.
  have htokens : (g.keyedConditions (init ++ [last]) search).lex =
      [disj].intercalate (groups.map (conjoined conj)) := by
    rw [keyedConditions, hjoined.trimEnd.lex_eq, List.map_cons, hids.lex_eq, List.map_append,
      List.map_singleton, intercalate_alternatives]
    simp [groups, alternative, conditions, conjoined, Function.comp_def]
  have halternative : ∀ id, ReadsAs (alternative id).1 (alternative id).2 :=
    fun id => (reads_idTokens h.key hparts id).readsAs
  have hgroups : ∀ group ∈ groups, group ≠ [] ∧ ∀ x ∈ group, ReadsAs x.1 x.2 := by
    intro group hgroup
    rcases List.mem_append.mp hgroup with hgroup | hgroup
    · obtain ⟨id, _, rfl⟩ := List.mem_map.mp hgroup
      refine ⟨List.cons_ne_nil _ _, fun x hx => ?_⟩
      obtain rfl := List.mem_singleton.mp hx
      exact halternative id
    · obtain rfl := List.mem_singleton.mp hgroup
      refine ⟨List.cons_ne_nil _ _, fun x hx => ?_⟩
      rcases List.mem_cons.mp hx with rfl | hx
      · exact halternative last
      · obtain ⟨filter, hfilter, rfl⟩ := List.mem_map.mp hx
        exact (isAtomic_activeFilters h filter hfilter).readsAs
  have hreads := reads_disjunction kind_conj kind_disj (by simp [groups]) hgroups
  rw [htokens, hreads.read?_eq]
  simp [groups, alternative, conditions, keyedFormula, Formula.all, Function.comp_def]

/-! ## The rows of the clause -/

/-- A row has the id as its key. -/
def HasKey (g : Generator) (row : List Token → Prop) (id : Json) : Prop :=
  ∀ s ∈ g.keyParts, row (g.partSql id s).lex

/-- A row satisfies the active conditions. -/
def Satisfies (g : Generator) (row : List Token → Prop) (search : Json) : Prop :=
  ∀ filter ∈ g.activeFilters search, row filter.lex

/-- The formula of an id holds for the rows with that key. -/
theorem holds_idFormula (hparts : g.keyParts ≠ []) {row : List Token → Prop} (id : Json) :
    (g.idFormula id).holds row ↔ g.HasKey row id := by
  rw [idFormula, Formula.holds_all (by simpa using hparts)]
  simp [HasKey, Formula.holds]

/-- The clause is true of the rows of all ids but the last, and of those of the last one that
satisfy the conditions. -/
theorem holds_keyedFormula (hparts : g.keyParts ≠ []) {row : List Token → Prop} :
    (g.keyedFormula init last search).holds row ↔
      (∃ id ∈ init, g.HasKey row id) ∨ g.HasKey row last ∧ g.Satisfies row search := by
  have hlast : (Formula.all (g.idFormula last :: (g.activeFilters search).map atomOf)).holds row ↔
      g.HasKey row last ∧ g.Satisfies row search := by
    rw [Formula.holds_all (List.cons_ne_nil _ _), List.forall_mem_cons, holds_idFormula hparts]
    simp [Satisfies, atomOf, Formula.holds]
  rw [keyedFormula, Formula.holds_any (by simp)]
  constructor
  · rintro ⟨f, hf, hrow⟩
    rcases List.mem_append.mp hf with hf | hf
    · obtain ⟨id, hid, rfl⟩ := List.mem_map.mp hf
      exact .inl ⟨id, hid, (holds_idFormula hparts id).mp hrow⟩
    · obtain rfl := List.mem_singleton.mp hf
      exact .inr (hlast.mp hrow)
  · rintro (⟨id, hid, hrow⟩ | hrow)
    · exact ⟨g.idFormula id, List.mem_append_left _ (List.mem_map_of_mem hid),
        (holds_idFormula hparts id).mpr hrow⟩
    · exact ⟨_, List.mem_append_right _ (List.mem_singleton_self _), hlast.mpr hrow⟩

/-- A row has one of the ids as its key and satisfies the active conditions. -/
def Wanted (g : Generator) (row : List Token → Prop) (ids : List Json) (search : Json) : Prop :=
  (∃ id ∈ ids, g.HasKey row id) ∧ g.Satisfies row search

/-- For a row, the clause tells whether it is wanted exactly if the row satisfies the conditions
or has the key of no id but the last. -/
theorem holds_keyedFormula_iff_wanted (hparts : g.keyParts ≠ []) {row : List Token → Prop} :
    ((g.keyedFormula init last search).holds row ↔ g.Wanted row (init ++ [last]) search) ↔
      g.Satisfies row search ∨ ∀ id ∈ init, ¬ g.HasKey row id := by
  have hids : (∃ id ∈ init ++ [last], g.HasKey row id) ↔
      (∃ id ∈ init, g.HasKey row id) ∨ g.HasKey row last := by
    simp only [List.mem_append, List.mem_singleton, or_and_right, exists_or, exists_eq_left]
  have hnone : (∀ id ∈ init, ¬ g.HasKey row id) ↔ ¬ ∃ id ∈ init, g.HasKey row id := by
    simp
  rw [holds_keyedFormula hparts, Wanted, hids, hnone]
  by_cases hconditions : g.Satisfies row search
  · simp [hconditions]
  · simp [hconditions]

/-- The clause tells of every row whether it is wanted exactly if each active condition is
among the comparisons of every id but the last. -/
theorem forall_holds_iff_wanted (hparts : g.keyParts ≠ []) :
    (∀ row, (g.keyedFormula init last search).holds row ↔
        g.Wanted row (init ++ [last]) search) ↔
      ∀ id ∈ init, ∀ filter ∈ g.activeFilters search,
        ∃ s ∈ g.keyParts, (g.partSql id s).lex = filter.lex := by
  simp only [holds_keyedFormula_iff_wanted hparts]
  constructor
  · intro h id hid filter hfilter
    -- The row of which nothing is true but the comparisons of the id.
    let row : List Token → Prop := fun ts => ∃ s ∈ g.keyParts, (g.partSql id s).lex = ts
    rcases h row with hconditions | hkeys
    · exact hconditions filter hfilter
    · exact absurd (fun s hs => ⟨s, hs, rfl⟩) (hkeys id hid)
  · intro h row
    by_cases hkeys : ∀ id ∈ init, ¬ g.HasKey row id
    · exact .inr hkeys
    · left
      intro filter hfilter
      simp only [not_forall, not_not] at hkeys
      obtain ⟨id, hid, hkey⟩ := hkeys
      obtain ⟨s, hs, htokens⟩ := h id hid filter hfilter
      rw [← htokens]
      exact hkey s hs

/-! ## The search -/

/-- The clause stands in the search as it is. -/
theorem evaluate_find {find : Statement} {slots : List Slot} {ids : List Json}
    (hkey : g.entity.hasCompositeKey = true) (hslots : g.slots = .ok slots)
    (hfind : g.findStatement false = .ok find) (hids : q.ids? = some ids) (hne : ids ≠ []) :
    find.body.evaluate q.json = Sql.text ("select * from " ++ g.table ++ " ") ++
      (Sql.text "where " ++ g.keyedConditions ids (q.valueOf .condition)) ++ Sql.text " " ++
        g.orderingSql slots q.sorting? := by
  obtain ⟨query, hquery, hfind⟩ := bind_eq_ok.mp hfind
  cases hfind
  have hfilters : g.keyFilters q.ids? = [g.idsSql ids] := by
    rw [keyFilters_of_key (key_of_composite hkey).1, hids]
    rfl
  have hyields := yields_findQuery hslots hquery (q := q) (by simpa [hids] using hne)
  rw [hfilters] at hyields
  exact hyields.evaluate

/-- The search by ids of several columns next to conditions: the clause is true of the rows of
all ids but the last whatever the conditions say.  So it finds the rows that are wanted exactly
where the conditions add nothing for those ids. -/
theorem search_precedence {find : Statement} (hkey : g.entity.hasCompositeKey = true)
    (hparts : g.keyParts ≠ []) (hoperands : g.HasOperands)
    (hids : q.ids? = some (init ++ [last])) (hfind : g.findStatement false = .ok find) :
    ∃ slots formula, g.slots = .ok slots ∧
      find.body.evaluate q.json = Sql.text ("select * from " ++ g.table ++ " ") ++
        (Sql.text "where " ++ g.keyedConditions (init ++ [last]) (q.valueOf .condition)) ++
          Sql.text " " ++ g.orderingSql slots q.sorting? ∧
      read? (g.keyedConditions (init ++ [last]) (q.valueOf .condition)).lex = some formula ∧
      (∀ row, formula.holds row ↔ (∃ id ∈ init, g.HasKey row id) ∨
        g.HasKey row last ∧ g.Satisfies row (q.valueOf .condition)) ∧
      (∀ row, (formula.holds row ↔ g.Wanted row (init ++ [last]) (q.valueOf .condition)) ↔
        g.Satisfies row (q.valueOf .condition) ∨ ∀ id ∈ init, ¬ g.HasKey row id) ∧
      ((∀ row, formula.holds row ↔ g.Wanted row (init ++ [last]) (q.valueOf .condition)) ↔
        ∀ id ∈ init, ∀ filter ∈ g.activeFilters (q.valueOf .condition),
          ∃ s ∈ g.keyParts, (g.partSql id s).lex = filter.lex) := by
  obtain ⟨query, hquery, _⟩ := bind_eq_ok.mp hfind
  obtain ⟨keys, _, hrest⟩ := bind_eq_ok.mp hquery
  obtain ⟨conditions, _, hrest⟩ := bind_eq_ok.mp hrest
  obtain ⟨order, horder, _⟩ := bind_eq_ok.mp hrest
  obtain ⟨slots, hslots, _⟩ := bind_eq_ok.mp horder
  exact ⟨slots, g.keyedFormula init last (q.valueOf .condition), hslots,
    evaluate_find hkey hslots hfind hids (by simp),
    read_keyedConditions (key_of_composite hkey).2 hparts hoperands,
    fun row => holds_keyedFormula hparts, fun row => holds_keyedFormula_iff_wanted hparts,
    forall_holds_iff_wanted hparts⟩

/-! ## A search for labelled pairs -/

/-- Pairs with a key of two columns, of which those with a label can be searched for. -/
def labelledPairs : Generator :=
  let key (name : String) := Property.plain .id name "i64" ⟨.plain name, .bigint⟩
  let label := { Property.plain .basic "label" "String" ⟨.plain "label", .varchar⟩ with
    conditions := [.plain .isNotNull] }
  let entity : Entity :=
    { Entity.plain "app::Pair" "pairs" with
      properties := [key "left", key "right", label]
      keyClass? := some "app::PairKey" }
  { catalog := Catalog.add .empty entity
    dialect := .postgres
    repository := ⟨"app::Pairs", "app::Pair", false⟩
    entity
    defaultSequence := "pair_seq" }

/-- The key of a pair. -/
def pairKey (left right : Int) : Json := .object [("left", .int left), ("right", .int right)]

/-- A search object that asks for a label. -/
def withLabel : Json := .object [("label", .bool true)]

/-- A request for two pairs with a label. -/
def pairsRequest : Request :=
  (Request.empty.apply (.ids [pairKey 1 1, pairKey 2 2])).apply (.condition withLabel)

/-- The conditions of the search for two pairs with a label. -/
def pairsConditions : Sql :=
  Sql.text "(left = " ++ [.bound (.int 1) none] ++ Sql.text " and right = " ++
    [.bound (.int 1) none] ++ Sql.text ") or (left = " ++ [.bound (.int 2) none] ++
    Sql.text " and right = " ++ [.bound (.int 2) none] ++ Sql.text ") and label  is not null"

/-- The key of the labelled pairs has parts. -/
theorem labelledPairs_keyParts : labelledPairs.keyParts ≠ [] := by
  intro hnil
  exact absurd (congrArg List.length hnil) (by decide)

/-- The columns of the labelled pairs are operands. -/
theorem labelledPairs_hasOperands : labelledPairs.HasOperands where
  key s hs := by
    have hmem : labelledPairs.column s ∈ labelledPairs.keyParts.map labelledPairs.column :=
      List.mem_map_of_mem hs
    have hcolumns : labelledPairs.keyParts.map labelledPairs.column = ["left", "right"] := by
      decide
    rw [hcolumns] at hmem
    rcases List.mem_pair.mp hmem with hleft | hright
    · rw [hleft]
      exact ⟨_, rfl, .token _ rfl⟩
    · rw [hright]
      exact ⟨_, rfl, .token _ rfl⟩
  conditions pc hpc := by
    obtain rfl := List.mem_singleton.mp hpc
    exact ⟨_, rfl, .token _ rfl⟩

/-- The search finds the first pair without a label, too. -/
theorem search_precedence_pairs : ∃ find formula, labelledPairs.findStatement false = .ok find ∧
    find.body.evaluate pairsRequest.json =
      Sql.text "select * from pairs where " ++ pairsConditions ++ Sql.text " " ∧
    read? pairsConditions.lex = some formula ∧
    ∀ row, formula.holds row ↔ labelledPairs.HasKey row (pairKey 1 1) ∨
      labelledPairs.HasKey row (pairKey 2 2) ∧ labelledPairs.Satisfies row withLabel := by
  obtain ⟨find, hfind⟩ :=
    isOk_iff.mp (by decide : (labelledPairs.findStatement false).isOk = true)
  have hids : pairsRequest.ids? = some ([pairKey 1 1] ++ [pairKey 2 2]) := rfl
  obtain ⟨slots, formula, _, htext, hread, hholds, _, _⟩ :=
    search_precedence (by decide) labelledPairs_keyParts labelledPairs_hasOperands hids hfind
  refine ⟨find, formula, hfind, htext, hread, fun row => ?_⟩
  rw [hholds row]
  simp [pairsRequest, Request.valueOf]

/-- A pair without a label that the search finds, although it asks for a label. -/
theorem search_misses_condition : ∃ find formula row,
    labelledPairs.findStatement false = .ok find ∧
    find.body.evaluate pairsRequest.json =
      Sql.text "select * from pairs where " ++ pairsConditions ++ Sql.text " " ∧
    read? pairsConditions.lex = some formula ∧ formula.holds row ∧
    ¬ labelledPairs.Wanted row [pairKey 1 1, pairKey 2 2] withLabel := by
  obtain ⟨find, hfind⟩ :=
    isOk_iff.mp (by decide : (labelledPairs.findStatement false).isOk = true)
  obtain ⟨slots, hslots⟩ := isOk_iff.mp (by decide : labelledPairs.slots.isOk = true)
  have hids : pairsRequest.ids? = some ([pairKey 1 1] ++ [pairKey 2 2]) := rfl
  have htext := evaluate_find (by decide) hslots hfind hids (by simp)
  have hread :
      read? (labelledPairs.keyedConditions ([pairKey 1 1] ++ [pairKey 2 2]) withLabel).lex =
        some (labelledPairs.keyedFormula [pairKey 1 1] (pairKey 2 2) withLabel) :=
    read_keyedConditions (key_of_composite (by decide)).2 labelledPairs_keyParts
      labelledPairs_hasOperands
  -- The row of which nothing is true but that it has the first key.
  let row : List Token → Prop := fun ts =>
    ∃ s ∈ labelledPairs.keyParts, (labelledPairs.partSql (pairKey 1 1) s).lex = ts
  refine ⟨find, _, row, hfind, htext, hread, ?_, ?_⟩
  · rw [holds_keyedFormula labelledPairs_keyParts]
    exact .inl ⟨_, List.mem_singleton_self _, fun s hs => ⟨s, hs, rfl⟩⟩
  · rintro ⟨_, hsatisfies⟩
    obtain ⟨s, hs, htokens⟩ := hsatisfies (Sql.text "label  is not null") (.head _)
    have hlengths : ∀ slot ∈ labelledPairs.keyParts,
        (labelledPairs.partSql (pairKey 1 1) slot).lex.length = 3 := by
      decide
    have hlength := hlengths s hs
    rw [htokens] at hlength
    exact absurd hlength (by decide)

end EntityMapping.Generator
