import EntityMapping.Proofs.Text.LastPart
import EntityMapping.Proofs.Writing.GeneratedKeys
import Mathlib.Data.List.DropRight

/-!
# Identity columns read back

Postgres keeps the numbers of an identity column in a sequence that is named after the table and the
column, and an insertion reads the new key back from there.  The name of the table is taken from its
text in SQL: what stands behind the last dot, without double quotes.  So the schema is left out
whatever it is, but a dot inside a quoted name is taken for its end.

Main results:

- `Entity.bareTable_tableName`: what is taken for the name of a table.
- `Generator.readBack_names_table_iff`: the sequence is named after the whole table exactly if the
  name of the table has no dot.
-/

namespace EntityMapping

/-! ## Names without quotes -/

/-- The text without double quotes. -/
def unquoted (text : String) : String := String.ofList (text.toList.filter (· != '"'))

/-- Quotes are taken off part by part. -/
theorem unquoted_append (a b : String) : unquoted (a ++ b) = unquoted a ++ unquoted b := by
  simp [unquoted]

/-- A text without quotes is left as it is. -/
theorem unquoted_of_lacks {text : String} (h : Lacks '"' text) : unquoted text = text := by
  apply String.toList_inj.mp
  have hkept : ∀ c ∈ text.toList, (c != '"') = true := by
    intro c hc
    simpa using fun heq : c = '"' => h (heq ▸ hc)
  rw [unquoted, String.toList_ofList, List.filter_eq_self.mpr hkept]

namespace Dialect

/-- The bare table is the last part without quotes. -/
theorem bareTable_of_lastPart {table part : String} (h : LastPart table part) :
    bareTable table = unquoted part := by
  have hlast := h.rtakeWhile_eq
  rw [List.rtakeWhile] at hlast
  rw [bareTable, hlast, unquoted]

end Dialect

variable {part : String}

/-- In the text of an identifier on Postgres, the quotes around it are no part of the name. -/
theorem Identifier.exists_lastPart_render {i : Identifier} (hquotes : Lacks '"' i.text)
    (h : LastPart i.text part) :
    ∃ last, LastPart (i.render .postgres) last ∧ unquoted last = part := by
  have hpart : Lacks '"' part := by
    rcases h.2 with htext | ⟨front, htext⟩
    · exact htext ▸ hquotes
    · rw [htext, lacks_append] at hquotes
      exact hquotes.2
  cases hquoted : i.quoted with
  | false =>
    refine ⟨part, ?_, unquoted_of_lacks hpart⟩
    rw [render_of_not_quoted hquoted]
    exact h
  | true =>
    have hrender : i.render .postgres = "\"" ++ i.text ++ "\"" := by
      simp [render, hquoted, Dialect.quote]
    have hback : Lacks '.' (part ++ "\"") := lacks_append.mpr ⟨h.1, by decide⟩
    have hmark : unquoted "\"" = "" := by decide
    -- The opening quote belongs to the last part just if that is the whole name.
    rcases h.2 with htext | ⟨front, htext⟩
    · refine ⟨"\"" ++ (part ++ "\""), ⟨lacks_append.mpr ⟨by decide, hback⟩, .inl ?_⟩, ?_⟩
      · rw [hrender, htext, String.append_assoc]
      · simp [unquoted_append, hmark, unquoted_of_lacks hpart]
    · refine ⟨part ++ "\"", ⟨hback, .inr ⟨"\"" ++ front, ?_⟩⟩, ?_⟩
      · rw [hrender, htext]
        simp only [String.append_assoc]
      · simp [unquoted_append, hmark, unquoted_of_lacks hpart]

/-- On Postgres what stands behind the last dot of the name is taken for the name of a table,
whatever the schema. -/
theorem Entity.bareTable_tableName {e : Entity} (hquotes : Lacks '"' e.table.text)
    (h : LastPart e.table.text part) :
    Dialect.bareTable (e.tableName .postgres) = part := by
  obtain ⟨last, hlast, rfl⟩ := e.table.exists_lastPart_render hquotes h
  rw [tableName]
  split
  · exact Dialect.bareTable_of_lastPart (hlast.behind _)
  · exact Dialect.bareTable_of_lastPart hlast

/-! ## Implicit sequences -/

/-- The name of the sequence behind an identity column. -/
def implicitSequence (table column : String) : String := table ++ "_" ++ column ++ "_seq"

/-- SQL that reads the current value of a sequence. -/
def currentValue (sequence : String) : String := "select currval('" ++ sequence ++ "')"

/-- Different tables have different implicit sequences. -/
theorem currentValue_implicitSequence_inj {table table' column : String} :
    currentValue (implicitSequence table column) = currentValue (implicitSequence table' column) ↔
      table = table' := by
  unfold currentValue implicitSequence
  simp only [← String.toList_inj, String.toList_append, List.append_cancel_left_eq,
    List.append_cancel_right_eq]

/-- The key is read from the sequence of the last part of the table. -/
theorem Entity.identitySelect_tableName {e : Entity} (hquotes : Lacks '"' e.table.text)
    (h : LastPart e.table.text part) (column : String) :
    Dialect.postgres.identitySelect (e.tableName .postgres) column =
      .ok (currentValue (implicitSequence part column)) := by
  have hend : "_seq" ++ "')" = "_seq')" := by decide
  rw [Dialect.identitySelect, bareTable_tableName hquotes h]
  unfold currentValue implicitSequence
  simp only [String.append_assoc, hend]

namespace Generator

variable {g : Generator} {p : Property} {generation : KeyGeneration}

/-- On Postgres a key from an identity column is read back after either insertion, from the sequence
named after the column and what stands behind the last dot of the table; that is the sequence of the
table itself exactly if the name of the table has no dot. -/
theorem readBack_names_table_iff (hdialect : g.dialect = .postgres)
    (hembedded : ¬ g.LacksEmbedded) (hkey : g.entity.key = .simple p)
    (hgenerated : p.generated? = some generation) (hidentity : generation.strategy = .identity)
    (hquotes : Lacks '"' g.entity.table.text) (selective : Bool) :
    ∃ s sql rest, g.insertStatement selective = .ok s ∧
      s.body = .selectKey p.name p.column.name.text .after p.typeName (.text sql) ++ rest ∧
      (∃ part, LastPart g.entity.table.text part ∧
        sql = currentValue (implicitSequence part p.column.name.canonical)) ∧
      (sql = currentValue (implicitSequence g.entity.table.text p.column.name.canonical) ↔
        Lacks '.' g.entity.table.text) := by
  obtain ⟨part, hpart⟩ := exists_lastPart g.entity.table.text
  have hsql : Generation.keySql g.entity p generation g.dialect g.defaultSequence =
      .ok (currentValue (implicitSequence part p.column.name.canonical), .after) := by
    have hresolved : Generation.resolvedStrategy generation g.dialect = .identity := by
      simp [Generation.resolvedStrategy, hidentity]
    rw [Generation.keySql, hresolved, hdialect]
    dsimp only
    rw [Entity.identitySelect_tableName hquotes hpart]
    rfl
  have hselect := insertKey_of_generated hkey hgenerated
  rw [hsql] at hselect
  obtain ⟨s, slots, hs, hbody, _⟩ := exists_insertStatement hselect hembedded selective
  refine ⟨s, _, _, hs, hbody, ⟨part, hpart, rfl⟩, ?_⟩
  rw [currentValue_implicitSequence_inj]
  exact hpart.eq_iff

/-! ## Events -/

/-- The number of an event, from an identity column. -/
def eventNumber : Property :=
  { Property.plain .id "number" "i64" ⟨.plain "EventNo", .bigint⟩ with
    generated? := some ⟨.identity, none⟩ }

/-- Numbered events on Postgres, in a quoted table. -/
def eventLogs (table : String) : Generator :=
  let entity :=
    { Entity.plain "app::Event" "" with
      table := ⟨table, true⟩
      schema? := some (.plain "core.v2")
      properties := [eventNumber] }
  { catalog := Catalog.add .empty entity
    dialect := .postgres
    repository := ⟨"app::Events", "app::Event", false⟩
    entity
    defaultSequence := "event_seq" }

/-- Blanks and dots in the schema do no harm. -/
theorem readBack_names_table_events : ∃ s rest,
    (eventLogs "Event Log").insertStatement false = .ok s ∧
      s.body = .selectKey "number" "EventNo" .after "i64"
        (.text "select currval('Event Log_eventno_seq')") ++ rest := by
  have hcomplete : ¬ (eventLogs "Event Log").LacksEmbedded :=
    fails_slots_iff.not.mp (not_fails_iff.mpr (isOk_iff.mp (by decide)))
  obtain ⟨s, sql, rest, hs, hbody, _, hnamed⟩ := readBack_names_table_iff
    (g := eventLogs "Event Log") (p := eventNumber) rfl hcomplete rfl rfl rfl (by decide) false
  have hsql : sql = "select currval('Event Log_eventno_seq')" :=
    (hnamed.mpr (by decide)).trans (by decide)
  exact ⟨s, rest, hs, hsql ▸ hbody⟩

/-- A dot in the name of the table cuts the name of its sequence. -/
theorem dotted_table_cut :
    Lacks '"' (eventLogs "audit.log").entity.table.text ∧
    ∃ s rest, (eventLogs "audit.log").insertStatement false = .ok s ∧
      s.body = .selectKey "number" "EventNo" .after "i64"
        (.text "select currval('log_eventno_seq')") ++ rest ∧
      "select currval('log_eventno_seq')" ≠ currentValue (implicitSequence "audit.log" "eventno") :=
  ⟨by decide, _, _, rfl, rfl, by decide⟩

end Generator

end EntityMapping
