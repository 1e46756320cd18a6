import EntityMapping.Proofs.Columns.RoundTrip
import EntityMapping.Proofs.Search.Find
import EntityMapping.Proofs.Xml.ColumnMap
import Mathlib.Data.List.Nodup

/-!
# Sorted searches

A search binds the map from paths to columns as a literal in an attribute and looks up the
column of every sort order in it.

Main results:

- `Generator.sorts_by_columns`: a search is sorted by the columns of the given paths.
-/

namespace EntityMapping

namespace Generator

variable {g : Generator} {slots : List Slot}

/-! ## Columns of paths -/

/-- With distinct paths the entries are a map. -/
theorem lookup_columnEntries (hdistinct : (slots.map Slot.path).Nodup) (path column : String) :
    (g.columnEntries slots).lookup path = some column ↔
      ∃ s ∈ slots, s.path = path ∧ g.column s = column := by
  constructor
  · intro hlookup
    obtain ⟨before, after, hentries, _⟩ := List.lookup_eq_some_iff.mp hlookup
    have hmem : (path, column) ∈ g.columnEntries slots := by simp [hentries]
    obtain ⟨s, hs, hentry⟩ := List.mem_map.mp hmem
    exact ⟨s, hs, congrArg Prod.fst hentry, congrArg Prod.snd hentry⟩
  · rintro ⟨s, hs, rfl, rfl⟩
    obtain ⟨before, after, rfl⟩ := List.append_of_mem hs
    refine List.lookup_eq_some_iff.mpr ⟨_, _, List.map_append, fun entry hentry => ?_⟩
    obtain ⟨other, hother, rfl⟩ := List.mem_map.mp hentry
    rw [List.map_append, List.map_cons, List.nodup_append] at hdistinct
    have hne := hdistinct.2.2 other.path (List.mem_map_of_mem hother) s.path List.mem_cons_self
    simpa using hne.symm

/-- With distinct paths the column of a path is that of its slot. -/
theorem columnText_path (hdistinct : (slots.map Slot.path).Nodup) {s : Slot} (hs : s ∈ slots) :
    g.columnText slots s.path = g.column s := by
  obtain ⟨found, hfound⟩ := Option.isSome_iff_exists.mp
    (List.find?_isSome.mpr ⟨s, hs, beq_self_eq_true s.path⟩ :
      (slots.find? (·.path == s.path)).isSome = true)
  have hpath : found.path = s.path := by simpa using List.find?_some hfound
  have hsame : found = s :=
    List.inj_on_of_nodup_map hdistinct (List.mem_of_find?_eq_some hfound) hs hpath
  rw [columnText, hfound, hsame]
  rfl

/-! ## Sort keys -/

/-- The column of a slot and the direction of a sort order, folded if the letter case is
ignored. -/
def keySql (g : Generator) (o : SortOrder) (s : Slot) : Sql :=
  Sql.text (if o.ignoreCase then g.dialect.lowercase ++ "(" ++ g.column s ++ ")" else g.column s) ++
    Sql.text (" " ++ o.direction.name)

/-- What a search is sorted by: nothing without sort keys. -/
def keysSql (g : Generator) (keys : List (SortOrder × Slot)) : Sql :=
  if keys.isEmpty then []
  else Sql.text " order by " ++ Sql.join "," (keys.map fun key => g.keySql key.1 key.2)

/-- The order of a path is the sort key of its slot. -/
theorem orderSql_path (hdistinct : (slots.map Slot.path).Nodup) {o : SortOrder} {s : Slot}
    (hs : s ∈ slots) (hpath : s.path = o.property) : g.orderSql slots o = g.keySql o s := by
  rw [orderSql, ← hpath, columnText_path hdistinct hs, keySql]
  cases o.ignoreCase <;> simp

/-- A key of the order has something to see. -/
theorem keySql_ne_nil (o : SortOrder) (s : Slot) : g.keySql o s ≠ [] := by
  have hblank : Sql.text (" " ++ o.direction.name) ≠ [] := by simp [Sql.text]
  exact List.append_ne_nil_of_right_ne_nil _ hblank

/-- A sorting by paths is a list of sort keys. -/
theorem orderingSql_keys (hdistinct : (slots.map Slot.path).Nodup)
    {keys : List (SortOrder × Slot)}
    (hkeys : ∀ key ∈ keys, key.2 ∈ slots ∧ key.2.path = key.1.property) (q : Request) :
    g.orderingSql slots (q.apply (.sorting (keys.map Prod.fst))).sorting? = g.keysSql keys := by
  cases keys with
  | nil => rfl
  | cons key rest =>
    have horders : ((key :: rest).map Prod.fst).map (g.orderSql slots) =
        (key :: rest).map fun key => g.keySql key.1 key.2 := by
      rw [List.map_map]
      refine List.map_congr_left fun key hkey => ?_
      exact orderSql_path hdistinct (hkeys key hkey).1 (hkeys key hkey).2
    have hrounds : ∀ round ∈ (key :: rest).map fun key => g.keySql key.1 key.2, round ≠ [] := by
      intro round hround
      obtain ⟨key, _, rfl⟩ := List.mem_map.mp hround
      exact keySql_ne_nil key.1 key.2
    have hne : (key :: rest).map (fun key => g.keySql key.1 key.2) ≠ [] := by simp
    rw [List.map_cons, Request.apply_sorting_cons, orderingSql, ← List.map_cons, horders,
      Sql.looped_of_ne_nil hne hrounds]
    simp [keysSql]

/-! ## Searches -/

/-- The ordering starts with the literal of the map. -/
theorem print_orderBy (hslots : g.slots = .ok slots) : ∃ order rest, g.orderBy = .ok order ∧
    order.print = "<if test=\"__sort != null\"><bind name=\"__columnsMap\" value='" ++
      String.ofList (columnsLiteral (g.columnEntries slots)) ++ "'/> order by " ++ rest := by
  have hfront : "<if test=\"__sort != null\"><bind name=\"__columnsMap\" value='" =
      "<if test=\"" ++ (Test.notNull [Parameter.sort.name]).print ++ "\">" ++
        ("<bind name=\"" ++ columnsName ++ "\" value='") := by decide
  have hmiddle : "'/> order by " = "'/>" ++ " order by " := by decide
  refine ⟨_, (Template.loop orderSettings g.orderRound).print ++ "</if>", orderBy_eq hslots, ?_⟩
  rw [Template.print_guard, Template.print_append, Template.print_append, Template.print_text,
    print_columnsLiteral, hfront, hmiddle]
  simp only [String.append_assoc]

/-- A search ends in its ordering. -/
theorem print_findQuery {order query : Template} (horder : g.orderBy = .ok order)
    (h : g.findQuery = .ok query) : ∃ front, query.print = front ++ order.print := by
  obtain ⟨keys, _, h⟩ := bind_eq_ok.mp h
  obtain ⟨conditions, _, h⟩ := bind_eq_ok.mp h
  obtain ⟨others, hothers, h⟩ := bind_eq_ok.mp h
  cases horder.symm.trans hothers
  cases h
  exact ⟨_, rfl⟩

/-- The ordering of a search starts with the map from paths to columns, which can be read
back.  The search is sorted by the columns of the paths that are given, in their directions, and
not at all without paths. -/
theorem sorts_by_columns (hslots : g.slots = .ok slots)
    (hplain : ∀ s ∈ slots, Xml.IsPlain s.path ∧ Xml.IsPlain (g.column s))
    (hdistinct : (slots.map Slot.path).Nodup) :
    ∃ order literal rest columns, g.orderBy = .ok order ∧
      order.print = "<if test=\"__sort != null\"><bind name=\"__columnsMap\" value='" ++
        String.ofList literal ++ "'/> order by " ++ rest ∧
      '\'' ∉ literal ∧ readColumns literal = some columns ∧ (columns.map Prod.fst).Nodup ∧
      (∀ path column, columns.lookup path = some column ↔
        ∃ s ∈ slots, s.path = path ∧ g.column s = column) ∧
      (¬ g.HasMisfit → ∃ find front, g.findStatement false = .ok find ∧
        find.body.print = front ++ order.print ∧
        ∀ (q : Request) (keys : List (SortOrder × Slot)),
          (∀ key ∈ keys, key.2 ∈ slots ∧ key.2.path = key.1.property) →
          find.body.evaluate (q.apply (.sorting (keys.map Prod.fst))).json =
            Sql.text ("select * from " ++ g.table ++ " ") ++ Sql.whereOf (g.ledFilters q) ++
              Sql.text " " ++ g.keysSql keys) := by
  have hentries : ∀ e ∈ g.columnEntries slots, Xml.IsPlain e.1 ∧ Xml.IsPlain e.2 := by
    intro e he
    obtain ⟨s, hs, rfl⟩ := List.mem_map.mp he
    exact hplain s hs
  obtain ⟨order, rest, horder, hprint⟩ := print_orderBy hslots
  refine ⟨order, columnsLiteral (g.columnEntries slots), rest, g.columnEntries slots, horder,
    hprint, quote_not_mem_columnsLiteral hentries, readColumns_columnsLiteral hentries, ?_,
    lookup_columnEntries hdistinct, fun hfit => ?_⟩
  · rw [columnEntries, List.map_map]
    exact hdistinct
  · have hembedded : ¬ g.LacksEmbedded := fails_slots_iff.not.mp (not_fails_iff.mpr ⟨_, hslots⟩)
    have hfails : ¬ Fails (g.findStatement false) := by
      rw [fails_findStatement_iff]
      exact not_or.mpr ⟨hembedded, hfit⟩
    obtain ⟨find, hfind⟩ := not_fails_iff.mp hfails
    obtain ⟨query, hquery, hbody⟩ := bind_eq_ok.mp hfind
    obtain ⟨front, hfront⟩ := print_findQuery horder hquery
    cases hbody
    refine ⟨_, front, hfind, hfront, fun q keys hkeys => ?_⟩
    have hyields := (yields_findQuery_led (q := q.apply (.sorting (keys.map Prod.fst))) hslots
      hquery).evaluate
    rw [orderingSql_keys hdistinct hkeys] at hyields
    exact hyields

/-! ## Sorted invoices -/

/-- The number of an invoice, regardless of its letter case, and then its sum, the largest
first. -/
def invoiceKeys : List (SortOrder × Slot) :=
  [(⟨"number", .ascending, true⟩, ⟨"number", none, ⟨⟨"Number", true⟩, .varchar⟩, false⟩),
    (⟨"total.amount", .descending, false⟩,
      ⟨"amount", some "total", ⟨⟨"Amount", true⟩, .decimal⟩, false⟩)]

/-- Invoices are sorted by the quoted column of their number and then by that of their sum. -/
theorem sorts_by_columns_invoices : ∃ find, invoices.findStatement false = .ok find ∧
    find.body.evaluate (Request.empty.apply (.sorting (invoiceKeys.map Prod.fst))).json =
      Sql.text "select * from invoices   order by lower(`Number`) asc,`Amount` desc" ∧
    find.body.evaluate Request.empty.json = Sql.text "select * from invoices  " := by
  have hfit : ¬ invoices.HasMisfit :=
    fails_countStatement_iff.not.mp (not_fails_iff.mpr ⟨_, rfl⟩)
  obtain ⟨order, literal, rest, columns, _, _, _, _, _, _, hfind⟩ :=
    sorts_by_columns invoices_slots (by unfold Xml.IsPlain; decide) (by decide)
  obtain ⟨find, front, hfind, _, hsorted⟩ := hfind hfit
  refine ⟨find, hfind, (hsorted Request.empty invoiceKeys (by decide)).trans ?_,
    (hsorted Request.empty [] (by decide)).trans ?_⟩
  · rfl
  · rfl

end Generator

end EntityMapping
