import EntityMapping.Generation.Insert
import EntityMapping.Generation.Select
import EntityMapping.Proofs.Columns.Reading
import EntityMapping.Proofs.Engine.Pieces
import EntityMapping.Proofs.Run.Failure

/-!
# Columns that are written and read back

An insertion writes the value of every slot to its column, the result map reads it back from
there, and searches sort by the same columns.  The result map lists the plain properties before
the embedded ones; everything else keeps the order of the slots.

Main results:

- `Generator.typedValues_insertAll`, `Generator.columnMaps_findQuery`: what an insertion writes
  and what a search sorts by.
- `Generator.columns_read_back`: the columns of the statements are those of the slots.
-/

namespace EntityMapping.Generator

variable {g : Generator}

/-! ## Insertions -/

/-- The selection of a key binds no value of the entity. -/
theorem typedValues_insertKey {select : Template} {key? : Option KeyInfo}
    (h : g.insertKey = .ok (select, key?)) : select.typedValues = [] := by
  unfold insertKey at h
  split at h
  · split at h
    · cases h
      rfl
    · obtain ⟨selected, hselected, h⟩ := map_eq_ok.mp h
      obtain ⟨found, _, rfl⟩ := map_eq_ok.mp hselected
      cases h
      rfl
  · cases h
    rfl

/-- An insertion of all columns binds each of them with its type. -/
theorem typedValues_insertAll (slots : List Slot) :
    (g.insertAll slots).typedValues = slots.map fun s => (s.path, s.column.type) := by
  have hvalue : ∀ s : Slot, (Generation.typedValue s.path s.column).typedValues =
      [(s.path, s.column.type)] := fun s => rfl
  simp only [insertAll, Template.typedValues_append, Template.typedValues_text,
    Template.typedValues_join, List.nil_append, List.append_nil, List.flatMap_map, hvalue]
  exact List.map_eq_flatMap.symm

/-- The text of an insertion of all columns. -/
theorem print_insertAll (slots : List Slot) :
    (g.insertAll slots).print =
      "insert into " ++ g.table ++ " (" ++ String.intercalate "," (slots.map g.column) ++
        ") values (" ++
        String.intercalate "," (slots.map fun s => printValue s.path (some s.column.type)) ++
        ")" := by
  simp only [insertAll, Template.print_append, Template.print_text, Template.print_join,
    List.map_map, columnList]
  rfl

/-! ## Searches -/

/-- A search binds one map of columns, by which it sorts. -/
theorem columnMaps_findQuery {query : Template} {slots : List Slot} (hslots : g.slots = .ok slots)
    (h : g.findQuery = .ok query) :
    query.columnMaps = [slots.map fun s => (s.path, g.column s)] := by
  obtain ⟨keys, hkeys, h⟩ := bind_eq_ok.mp h
  obtain ⟨conditions, hconditions, h⟩ := bind_eq_ok.mp h
  obtain ⟨order, horder, h⟩ := bind_eq_ok.mp h
  cases h
  obtain ⟨others, hothers, horder⟩ := bind_eq_ok.mp horder
  cases hslots.symm.trans hothers
  cases horder
  simp [columnMaps_guardedKeysMatch hkeys, Generation.columnMaps_conditionBlock hconditions]

/-! ## Statements -/

/-- The result map reads every column back to where an insertion takes its value from: the plain
properties first and then the embedded ones, each in the order of the slots.  The list of all
columns, the columns of an insertion and the columns by which searches sort are those of the
slots, in order. -/
theorem columns_read_back (hembedded : ¬ g.LacksEmbedded) :
    ∃ slots results columns, g.slots = .ok slots ∧ g.resultMapStatement = .ok results ∧
      g.baseColumnListStatement = .ok columns ∧
      slots = g.entity.properties.flatMap g.catalog.slotsIn ∧
      results.body.resultEntries.map ResultEntry.place =
        (slots.filter (·.isOwn) ++ slots.filter fun s => !s.isOwn).map Slot.reading ∧
      (results.body.resultEntries.map ResultEntry.place).Perm (slots.map Slot.reading) ∧
      columns.body.print = String.intercalate "," (slots.map g.column) ∧
      (¬ g.RefusesKey → ∃ insert select key?, g.insertStatement false = .ok insert ∧
        g.insertKey = .ok (select, key?) ∧
        insert.body.typedValues = slots.map (fun s => (s.path, s.column.type)) ∧
        insert.body.print = select.print ++
          ("insert into " ++ g.table ++ " (" ++ String.intercalate "," (slots.map g.column) ++
            ") values (" ++
            String.intercalate "," (slots.map fun s => printValue s.path (some s.column.type)) ++
            ")")) ∧
      (¬ g.HasMisfit → ∀ paged, ∃ find, g.findStatement paged = .ok find ∧
        find.body.columnMaps = [slots.map fun s => (s.path, g.column s)]) := by
  obtain ⟨slots, hslots⟩ := not_fails_iff.mp (fails_slots_iff.not.mpr hembedded)
  obtain ⟨results, hresults⟩ :=
    not_fails_iff.mp (fails_resultMapStatement_iff.not.mpr hembedded)
  have hcolumns : g.baseColumnListStatement =
      .ok (g.statement .sql .baseColumnList (.text (g.columnList slots))) :=
    bind_eq_ok.mpr ⟨slots, hslots, rfl⟩
  refine ⟨slots, results, _, hslots, hresults, hcolumns, Catalog.slotsOf_eq_flatMap hslots,
    places_resultMap hresults hslots, resultEntries_perm_slots hresults hslots, rfl,
    fun hkey => ?_, fun hfit paged => ?_⟩
  · obtain ⟨⟨select, key?⟩, hselect⟩ := not_fails_iff.mp (fails_insertKey_iff.not.mpr hkey)
    have hinsert : ∃ insert, g.insertStatement false = .ok insert ∧
        insert.body = select ++ g.insertAll slots :=
      ⟨_, bind_eq_ok.mpr ⟨_, hselect, bind_eq_ok.mpr ⟨_, hslots, rfl⟩⟩, rfl⟩
    obtain ⟨insert, hinsert, hbody⟩ := hinsert
    refine ⟨insert, select, key?, hinsert, hselect, ?_, ?_⟩
    · rw [hbody, Template.typedValues_append, typedValues_insertKey hselect,
        typedValues_insertAll, List.nil_append]
    · rw [hbody, Template.print_append, print_insertAll]
  · have hfails : ¬ Fails (g.findStatement paged) := by
      rw [fails_findStatement_iff]
      exact not_or.mpr ⟨hembedded, hfit⟩
    obtain ⟨find, hfind⟩ := not_fails_iff.mp hfails
    refine ⟨find, hfind, ?_⟩
    obtain ⟨query, hquery, hfind⟩ := bind_eq_ok.mp hfind
    cases hfind
    cases paged with
    | true => exact (g.dialect.columnMaps_window query).trans (columnMaps_findQuery hslots hquery)
    | false => exact columnMaps_findQuery hslots hquery

/-! ## Invoices -/

/-- Invoices with a sum of money between a key and a quoted number. -/
def invoices : Generator :=
  let money : Entity :=
    { Entity.plain "app::Money" "" with
      properties :=
        [Property.plain .basic "amount" "f64" ⟨⟨"Amount", true⟩, .decimal⟩,
          Property.plain .basic "currency" "String" ⟨.plain "currency", .char⟩]
      embeddable := true }
  let entity : Entity :=
    { Entity.plain "app::Invoice" "invoices" with
      properties :=
        [Property.plain .id "id" "i64" ⟨.plain "id", .bigint⟩,
          Property.plain .embedded "total" "app::Money" ⟨.plain "total", .varchar⟩,
          Property.plain .basic "number" "String" ⟨⟨"Number", true⟩, .varchar⟩] }
  { catalog := (Catalog.add .empty money).add entity
    dialect := .mysql
    repository := ⟨"app::Invoices", "app::Invoice", false⟩
    entity
    defaultSequence := "invoice_seq" }

/-- The columns of an invoice: two of its own and, between them, two of its total. -/
theorem invoices_slots : invoices.slots = .ok
    [⟨"id", none, ⟨.plain "id", .bigint⟩, true⟩,
      ⟨"amount", some "total", ⟨⟨"Amount", true⟩, .decimal⟩, false⟩,
      ⟨"currency", some "total", ⟨.plain "currency", .char⟩, false⟩,
      ⟨"number", none, ⟨⟨"Number", true⟩, .varchar⟩, false⟩] := by
  decide

/-- The number of an invoice is read before its sum, and written after it. -/
theorem columns_read_back_invoices : ∃ results columns insert find,
    invoices.resultMapStatement = .ok results ∧
    invoices.baseColumnListStatement = .ok columns ∧
    invoices.insertStatement false = .ok insert ∧ invoices.findStatement false = .ok find ∧
    results.body.resultEntries.map ResultEntry.place =
      [("id", "id", .bigint), ("number", "Number", .varchar),
        ("total.amount", "Amount", .decimal), ("total.currency", "currency", .char)] ∧
    columns.body.print = "id,`Amount`,currency,`Number`" ∧
    insert.body.typedValues =
      [("id", .bigint), ("total.amount", .decimal), ("total.currency", .char),
        ("number", .varchar)] ∧
    find.body.columnMaps =
      [[("id", "id"), ("total.amount", "`Amount`"), ("total.currency", "currency"),
        ("number", "`Number`")]] := by
  have hembedded : ¬ invoices.LacksEmbedded :=
    fails_slots_iff.not.mp (not_fails_iff.mpr ⟨_, invoices_slots⟩)
  have hkey : ¬ invoices.RefusesKey :=
    fails_insertKey_iff.not.mp (not_fails_iff.mpr ⟨_, rfl⟩)
  have hfit : ¬ invoices.HasMisfit :=
    fails_countStatement_iff.not.mp (not_fails_iff.mpr ⟨_, rfl⟩)
  obtain ⟨slots, results, columns, hslots, hresults, hcolumns, _, hplaces, _, hlist, hinsert,
    hfind⟩ := columns_read_back hembedded
  rw [invoices_slots] at hslots
  cases hslots
  obtain ⟨insert, _, _, hinsert, _, hvalues, _⟩ := hinsert hkey
  obtain ⟨find, hfind, hmaps⟩ := hfind hfit false
  exact ⟨results, columns, insert, find, hresults, hcolumns, hinsert, hfind, hplaces, hlist,
    hvalues, hmaps⟩

end EntityMapping.Generator
