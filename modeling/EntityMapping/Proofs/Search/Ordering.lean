import EntityMapping.Generation.Select
import EntityMapping.Proofs.Engine.Calls
import EntityMapping.Proofs.Fallible

/-!
# The ordering of a search

The sort parameter names properties; the columns come from a map that the statement binds.
So a sort order never brings text of its own into the statement.

Main results:

- `Generator.yields_orderBy`: the ordering comes to one column and direction for each order.
-/

namespace EntityMapping

namespace Generator

variable {g : Generator} {q : Request} {t : Template}

/-! ## Orders as SQL -/

/-- The column of a property among slots, as SQL text; nothing for another property. -/
def columnText (g : Generator) (slots : List Slot) (property : String) : String :=
  ((slots.find? (·.path == property)).map g.column).getD ""

/-- The column and the direction of a sort order, folded if the letter case is ignored. -/
def orderSql (g : Generator) (slots : List Slot) (o : SortOrder) : Sql :=
  let column := Sql.text (g.columnText slots o.property)
  let lowercase := g.dialect.lowercase
  (if o.ignoreCase then Sql.text (lowercase ++ "(") ++ column ++ Sql.text ")" else column) ++
    Sql.text " " ++ Sql.text o.direction.name

/-- The ordering by a sorting, if there is one. -/
def orderingSql (g : Generator) (slots : List Slot) : Option Sorting → Sql
  | none => []
  | some orders => Sql.text " order by " ++ Sql.looped "" "," "" (orders.map (g.orderSql slots))

/-! ## The rounds of the ordering -/

/-- The settings of the loop over the sort orders. -/
def orderSettings : List (LoopSetting × String) :=
  [(.collection, Parameter.sort.name), (.item, "item"), (.index, "idx"), (.opening, ""),
    (.closing, ""), (.separator, ",")]

/-- A round of the loop over the sort orders. -/
def orderRound (g : Generator) : Template :=
  .guard (.holds "item.ignoreCase") (.text (g.dialect.lowercase ++ "(")) ++
    .splice (columnsName ++ "[item.property]") ++ .guard (.holds "item.ignoreCase") (.text ")") ++
    .text " " ++ .splice "item.direction"

/-- The entries of the map from paths to columns. -/
def columnEntries (g : Generator) (slots : List Slot) : List (String × String) :=
  slots.map fun s => (s.path, g.column s)

/-- The map from paths to columns that the ordering binds. -/
def columnsOf (g : Generator) (slots : List Slot) : Json :=
  .object (slots.map fun s => (s.path, .string (g.column s)))

/-- The map that is bound gives the column of a property. -/
theorem spelled_columns (slots : List Slot) (property : String) :
    ((g.columnsOf slots).field property).spelled = g.columnText slots property := by
  rw [columnsOf, Json.field, Json.member?, columnText, List.find?_map]
  simp only [Function.comp_def]
  cases slots.find? (·.path == property) <;> rfl

/-- The scope of a round: its order is the item, and the map of columns stays visible. -/
structure OrderScope (g : Generator) (slots : List Slot) (o : SortOrder) (s : Scope) : Prop where
  item : ∀ path, s.value ("item" ++ "." ++ path) = o.json.follow (pathNames path)
  columns : s.value columnsName = g.columnsOf slots

namespace OrderScope

variable {s : Scope} {slots : List Slot} {o : SortOrder}

/-- In each round of the loop the order is the item. -/
theorem round (hcolumns : s.value columnsName = g.columnsOf slots) (o : SortOrder) (index : Nat) :
    OrderScope g slots o (s.round orderSettings o.json index) := by
  have hround : s.round orderSettings o.json index =
      (s.bind "idx" (.int index)).bind "item" o.json := rfl
  rw [hround]
  refine ⟨fun path => Scope.value_bind_inside _ (by decide) _ _, ?_⟩
  rw [Scope.value_bind_of_ne _ (by decide) (by decide),
    Scope.value_bind_of_ne _ (by decide) (by decide)]
  exact hcolumns

/-- The property of an order is only looked up. -/
theorem column (h : OrderScope g slots o s) :
    (s.indexed (columnsName ++ "[item.property]")).spelled = g.columnText slots o.property := by
  have hproperty : s.value "item.property" = .string o.property := h.item "property"
  have hlookup : s.indexed (columnsName ++ "[" ++ "item.property" ++ "]") =
      (s.value columnsName).field (s.value "item.property").spelled :=
    s.indexed_lookup (by decide) (by decide) (by decide)
  rw [h.columns, hproperty] at hlookup
  exact (congrArg Json.spelled hlookup).trans (spelled_columns slots o.property)

/-- The direction that is spliced is that of the order. -/
theorem direction (h : OrderScope g slots o s) :
    (s.indexed "item.direction").spelled = o.direction.name := by
  rw [Scope.indexed_of_plain s (by decide)]
  exact congrArg Json.spelled (h.item "direction")

/-- The letter case is folded exactly if the order says so. -/
theorem passes (h : OrderScope g slots o s) :
    s.passes (.holds "item.ignoreCase") = o.ignoreCase := by
  have hignoring : s.value "item.ignoreCase" = .bool o.ignoreCase := h.item "ignoreCase"
  rw [Scope.passes, hignoring]
  rfl

end OrderScope

/-- A round writes the column and the direction of its order. -/
theorem eval_orderRound {s : Scope} {slots : List Slot} {o : SortOrder}
    (h : OrderScope g slots o s) : (g.orderRound.eval s).1 = g.orderSql slots o := by
  have htest := h.passes
  cases hcase : o.ignoreCase with
  | true =>
    rw [hcase] at htest
    simp [orderRound, Template.eval_guard_of_passes htest, h.column, h.direction, orderSql, hcase]
  | false =>
    rw [hcase] at htest
    simp [orderRound, Template.eval_guard_of_not htest, h.column, h.direction, orderSql, hcase]

/-- The loop writes its orders one by one, with the map of columns in scope. -/
theorem eval_orderLoop {s : Scope} {slots : List Slot} {orders : Sorting}
    (hitems : (s.value Parameter.sort.name).items = orders.map SortOrder.json)
    (hcolumns : s.value columnsName = g.columnsOf slots) :
    (Template.loop orderSettings g.orderRound).eval s =
      (Sql.looped "" "," "" (orders.map (g.orderSql slots)), s) :=
  Template.eval_loop_of_rounds hitems fun o _ index =>
    eval_orderRound (OrderScope.round hcolumns o index)

/-! ## The ordering -/

/-- No parameter is named like the map of columns. -/
theorem columnsName_free (p : Parameter) : p.name ≠ columnsName := by
  cases p <;> decide

/-- The ordering binds the map of columns and loops over the sort orders, if there are any. -/
theorem orderBy_eq {slots : List Slot} (hslots : g.slots = .ok slots) :
    g.orderBy = .ok (.guard (.notNull [Parameter.sort.name])
      (.bind columnsName (.columns (g.columnEntries slots)) ++ .text " order by " ++
        .loop orderSettings g.orderRound)) :=
  bind_eq_ok.mpr ⟨slots, hslots, rfl⟩

/-- The order clause is there exactly if a sorting is given. -/
theorem passes_sort {s : Scope} (hs : s.Sees q) :
    s.passes (.notNull [Parameter.sort.name]) = q.sorting?.isSome := by
  cases hsorting : q.sorting? <;>
    simp [Scope.passes, hs.value, Request.valueOf, hsorting, Sorting.json, Json.isNull]

/-- The loop runs over the orders of the sorting. -/
theorem items_sort {s : Scope} (hs : s.Sees q) :
    (s.value Parameter.sort.name).items = (q.sorting?.getD []).map SortOrder.json := by
  cases hsorting : q.sorting? <;>
    simp [hs.value, Request.valueOf, hsorting, Sorting.json, Json.items]

/-- The scope of the loop: the parameters and the map of columns are visible. -/
theorem columns_bound {s : Scope} (hs : s.Sees q) (slots : List Slot) :
    s.bound (.columns (g.columnEntries slots)) = g.columnsOf slots ∧
      (s.bind columnsName (g.columnsOf slots)).Sees q ∧
      (s.bind columnsName (g.columnsOf slots)).value columnsName = g.columnsOf slots := by
  refine ⟨?_, hs.bind columnsName_free _, Scope.value_bind_self _ (by decide) _⟩
  simp [Scope.bound, columnEntries, columnsOf, Function.comp_def]

/-- The ordering comes to one column and direction for each order, and to nothing without a
sorting. -/
theorem yields_orderBy {slots : List Slot} (hslots : g.slots = .ok slots)
    (h : g.orderBy = .ok t) : t.Yields q (g.orderingSql slots q.sorting?) := by
  rw [orderBy_eq hslots] at h
  cases h
  intro s hs
  rcases columns_bound (g := g) hs slots with ⟨hbound, hsees, hcolumns⟩
  have hpasses := passes_sort hs
  have hitems := items_sort hsees
  cases hsorting : q.sorting? with
  | none =>
    rw [hsorting] at hpasses
    exact ⟨s, Template.eval_guard_of_not hpasses _, hs⟩
  | some orders =>
    rw [hsorting] at hpasses hitems
    have hloop := eval_orderLoop hitems hcolumns
    refine ⟨_, ?_, hsees⟩
    rw [Template.eval_guard_of_passes hpasses, Template.eval_append, Template.eval_append,
      Template.eval_bind, Template.eval_text, hbound]
    rw [hloop]
    rfl

end Generator

end EntityMapping
