import EntityMapping.Proofs.Text.Lacking
import EntityMapping.Proofs.Xml.Decoding
import EntityMapping.Template.Printer

/-!
# Maps of columns in attributes

A search binds the map from paths to columns as a literal in an attribute.  The quotes of the
literal are references, so it can be read back as long as paths and columns hold neither quotes
nor ampersands of their own.

Main results:

- `print_columnsLiteral`: the element that binds a map holds its literal.
- `decode_columnsLiteral`: the references of the literal are read as quotes.
- `readColumns_columnsLiteral`: the literal is read back to the entries of the map.
-/

namespace EntityMapping

/-! ## The literal of a map -/

/-- A text with neither a quote nor an ampersand. -/
def Xml.IsPlain (text : String) : Prop := Lacks '\'' text ∧ Lacks '&' text

/-- What stands between the quotes of a map from an entry on, up to the closing brace. -/
def entryPieces (e : String × String) : List (String × String) → List (List Char)
  | [] => [e.1.toList, [':'], e.2.toList, ['\x7d']]
  | next :: rest => e.1.toList :: [':'] :: e.2.toList :: [','] :: entryPieces next rest

/-- What stands between the quotes of a map. -/
def mapPieces : List (String × String) → List (List Char)
  | [] => [['#', '\x7b', '\x7d']]
  | e :: rest => ['#', '\x7b'] :: entryPieces e rest

/-- A map as it stands in an attribute. -/
def columnsLiteral (entries : List (String × String)) : List Char :=
  "&apos;".toList.intercalate (mapPieces entries)

/-- An entry with its quotes. -/
def quotedEntry (quote : List Char) (e : String × String) : List Char :=
  quote ++ e.1.toList ++ quote ++ [':'] ++ quote ++ e.2.toList ++ quote

/-- Entries cut at their quotes are joined to the text of the entries. -/
theorem intercalate_entryPieces (quote before : List Char) (e : String × String)
    (rest : List (String × String)) :
    quote.intercalate (before :: entryPieces e rest) =
      before ++ [','].intercalate ((e :: rest).map (quotedEntry quote)) ++ ['\x7d'] := by
  induction rest generalizing before e with
  | nil => simp [entryPieces, quotedEntry]
  | cons next rest ih =>
    have hentry : quotedEntry quote e =
        quote ++ e.1.toList ++ quote ++ [':'] ++ quote ++ e.2.toList ++ quote := rfl
    have hrest := ih [','] next
    rw [List.map_cons] at hrest ⊢
    rw [List.map_cons, List.intercalate_cons_cons, hentry, entryPieces]
    simp only [List.intercalate_cons_cons, hrest, List.append_assoc]

/-- A map cut at its quotes is joined to the text of the map. -/
theorem intercalate_mapPieces (quote : List Char) (entries : List (String × String)) :
    quote.intercalate (mapPieces entries) =
      ['#', '\x7b'] ++ [','].intercalate (entries.map (quotedEntry quote)) ++ ['\x7d'] := by
  cases entries with
  | nil => rfl
  | cons e rest => exact intercalate_entryPieces _ _ e rest

/-- The element that binds a map holds its literal. -/
theorem print_columnsLiteral (name : String) (entries : List (String × String)) :
    (Template.bind name (.columns entries)).print =
      "<bind name=\"" ++ name ++ "\" value='" ++ String.ofList (columnsLiteral entries) ++
        "'/>" := by
  have hentries : (entries.map fun e => "&apos;" ++ e.1 ++ "&apos;:&apos;" ++ e.2 ++ "&apos;").map
      String.toList = entries.map (quotedEntry "&apos;".toList) := by
    rw [List.map_map]
    refine List.map_congr_left fun e _ => ?_
    simp [quotedEntry]
  apply String.toList_inj.mp
  rw [Template.print_columns, columnsLiteral, intercalate_mapPieces]
  simp only [String.toList_append, String.toList_intercalate, String.toList_ofList, hentries]
  simp

/-! ## Reading a map -/

/-- The entries among the pieces between quotes, up to the brace that closes the map. -/
def readEntries : List (List Char) → Option (List (String × String))
  | path :: colon :: column :: mark :: rest =>
    let entry := (String.ofList path, String.ofList column)
    if colon = [':'] then
      if mark = ['\x7d'] ∧ rest = [] then some [entry]
      else if mark = [','] then (readEntries rest).map (entry :: ·)
      else none
    else none
  | _ => none

/-- The entries of a map whose keys and values stand between quotes. -/
def readMap (text : List Char) : Option (List (String × String)) :=
  match text.splitOn '\'' with
  | [] => none
  | opening :: pieces =>
    if opening = ['#', '\x7b'] then readEntries pieces
    else if opening = ['#', '\x7b', '\x7d'] ∧ pieces = [] then some []
    else none

/-- The map that stands in an attribute. -/
def readColumns (literal : List Char) : Option (List (String × String)) :=
  (Xml.decode literal).bind readMap

/-- Entries are read back from their pieces. -/
theorem readEntries_entryPieces (e : String × String) (rest : List (String × String)) :
    readEntries (entryPieces e rest) = some (e :: rest) := by
  induction rest generalizing e with
  | nil => simp [entryPieces, readEntries]
  | cons next rest ih => simp [entryPieces, readEntries, ih next]

section

variable {entries : List (String × String)}

/-- Between the quotes stand paths, columns and the marks of the map. -/
theorem not_mem_mapPieces {c : Char} (hmarks : c ∉ ['#', '\x7b', '\x7d', ':', ','])
    (h : ∀ e ∈ entries, c ∉ e.1.toList ∧ c ∉ e.2.toList) :
    ∀ piece ∈ mapPieces entries, c ∉ piece := by
  simp only [List.mem_cons, List.not_mem_nil, or_false, not_or] at hmarks
  have hentries : ∀ e rest, (∀ e' ∈ e :: rest, c ∉ e'.1.toList ∧ c ∉ e'.2.toList) →
      ∀ piece ∈ entryPieces e rest, c ∉ piece := by
    intro e rest h
    induction rest generalizing e with
    | nil => simp [entryPieces, hmarks, h]
    | cons next rest ih =>
      have hrest := ih next fun e' he' => h e' (List.mem_cons_of_mem _ he')
      have hfirst := h e List.mem_cons_self
      simpa [entryPieces, hmarks, hfirst] using hrest
  cases entries with
  | nil => simp [mapPieces, hmarks]
  | cons e rest => simpa [mapPieces, hmarks] using hentries e rest h

/-- A character that is no mark of the map stands in its literal only if it does in an entry. -/
theorem not_mem_columnsLiteral {c : Char} (hmarks : c ∉ ['#', '\x7b', '\x7d', ':', ','])
    (hreference : c ∉ "&apos;".toList) (h : ∀ e ∈ entries, c ∉ e.1.toList ∧ c ∉ e.2.toList) :
    c ∉ columnsLiteral entries :=
  not_mem_intercalate hreference (not_mem_mapPieces hmarks h)

/-- The literal does not end the attribute. -/
theorem quote_not_mem_columnsLiteral (h : ∀ e ∈ entries, Xml.IsPlain e.1 ∧ Xml.IsPlain e.2) :
    '\'' ∉ columnsLiteral entries :=
  not_mem_columnsLiteral (by decide) (by decide) fun e he => ⟨(h e he).1.1, (h e he).2.1⟩

/-- The references of the literal are read as quotes. -/
theorem decode_columnsLiteral (h : ∀ e ∈ entries, Lacks '&' e.1 ∧ Lacks '&' e.2) :
    Xml.decode (columnsLiteral entries) = some (['\''].intercalate (mapPieces entries)) := by
  have hpieces : ∀ piece ∈ mapPieces entries, Xml.decode piece = some piece := fun piece hpiece =>
    Xml.decode_of_plain (not_mem_mapPieces (by decide) h piece hpiece)
  have hdecode : Xml.decode ("&apos;".toList.intercalate ((mapPieces entries).map id)) =
      some (['\''].intercalate ((mapPieces entries).map id)) :=
    Xml.decode_intercalate (by decide) hpieces
  rwa [List.map_id] at hdecode

/-- The entries of a map are read from between its quotes. -/
theorem readMap_mapPieces (h : ∀ e ∈ entries, Lacks '\'' e.1 ∧ Lacks '\'' e.2) :
    readMap (['\''].intercalate (mapPieces entries)) = some entries := by
  have hne : mapPieces entries ≠ [] := by
    cases entries <;> exact List.cons_ne_nil _ _
  rw [readMap, List.splitOn_intercalate _ (not_mem_mapPieces (by decide) h) hne]
  cases entries with
  | nil => rfl
  | cons e rest => exact readEntries_entryPieces e rest

/-- The literal is read back to the entries of the map. -/
theorem readColumns_columnsLiteral (h : ∀ e ∈ entries, Xml.IsPlain e.1 ∧ Xml.IsPlain e.2) :
    readColumns (columnsLiteral entries) = some entries := by
  have hdecode := decode_columnsLiteral fun e he => ⟨(h e he).1.2, (h e he).2.2⟩
  rw [readColumns, hdecode, Option.bind_some]
  exact readMap_mapPieces fun e he => ⟨(h e he).1.1, (h e he).2.1⟩

end

end EntityMapping
