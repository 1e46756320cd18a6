import EntityMapping.Params.Page
import EntityMapping.Params.Sorting
import EntityMapping.Proofs.Json.Records

/-!
# Sort orders and pages read back

Sort orders, sortings and pages are read back from their compact text, and from every other
spelling of their records: the members in another order, other keys with any values between them,
or the list of the values.

Main results:

- `Reads.quote`, `Reads.natural`, `SortDirection.reads`: the values of the fields.
- `SortOrder.reads`, `Page.reads`: records from any of their spellings.
- `parameters_read_back`: the texts that are written and all other spellings.
-/

namespace EntityMapping

namespace Json

/-! ## Values of fields -/

/-- A quoted text is its escaped characters between two quotes. -/
theorem toList_quote_append (s : String) (rest : List Char) :
    (quote s).toList ++ rest = '"' :: (s.toList.flatMap escape ++ '"' :: rest) := by
  simp

/-- A quoted text begins visibly. -/
theorem begins_quote (s : String) : Begins (quote s).toList :=
  ⟨'"', _, toList_quote s, by decide⟩

/-- A quoted text is read back. -/
theorem Reads.quote (s : String) : Reads readString (quote s).toList s where
  begins := begins_quote s
  read rest _ := by
    rw [toList_quote_append]
    exact stringRest_quote s rest

/-- A truth value is read back. -/
theorem Reads.truth (b : Bool) : Reads readBool (print (.bool b)).toList b := by
  cases b with
  | false => exact ⟨⟨'f', _, rfl, by decide⟩, fun _ _ => rfl⟩
  | true => exact ⟨⟨'t', _, rfl, by decide⟩, fun _ _ => rfl⟩

/-- A natural number is printed as its digits. -/
theorem toList_print_natural (n : Nat) : (print (.int n)).toList = Nat.toDigits 10 n := by
  simp [print, Int.repr_eq_if]

/-- A number of 64 bits is read back. -/
theorem Reads.natural {n : Nat} (hn : n < UInt64.size) :
    Reads readNatural (print (.int n)).toList n where
  begins := by
    rw [toList_print_natural]
    obtain ⟨d, ds, hds, hd⟩ := (isWhole_toDigits n).exists_cons
    refine ⟨d, ds, hds, isSpace_of_isDigit hd, ?_⟩
    rintro rfl
    cases hd
  read rest hrest := by
    rw [toList_print_natural]
    exact readNatural_toDigits hn hrest

/-! ## Compact texts -/

/-- An array is printed as the list of the texts of its items. -/
theorem toList_print_array (items : List Json) :
    (print (.array items)).toList = listText (items.map fun item => (print item).toList) := by
  have hitems : (printItems items).map String.toList = items.map fun item => (print item).toList := by
    induction items with
    | nil => rfl
    | cons item rest ih => rw [printItems, List.map_cons, List.map_cons, ih]
  simp [print, listText, separated_eq_intercalate, String.toList_intercalate, hitems]

/-- An object is printed as the texts of its members. -/
theorem toList_print_object (members : List (String × Json)) :
    (print (.object members)).toList =
      objectText (members.map fun m => (m.1, (print m.2).toList)) := by
  have hmembers : (printMembers members).map String.toList =
      (members.map fun m => (m.1, (print m.2).toList)).map memberText := by
    induction members with
    | nil => rfl
    | cons m rest ih => simp [printMembers, ih, memberText]
  simp [print, objectText, separated_eq_intercalate, String.toList_intercalate, hmembers]

/-- The object with the members in the given order is a spelling of the record. -/
theorem SpellsRecord.object_self (members : List (String × List Char)) :
    SpellsRecord members (objectText members) := by
  have hall : ∀ m ∈ members, m.1 ∈ members.map (·.1) := fun m hm => List.mem_map_of_mem hm
  refine .object ?_ fun m hm hkey => absurd (hall m hm) hkey
  rw [entriesOf, List.filter_eq_self.mpr fun m hm => by simpa using hall m hm]

end Json

open Json

/-! ## Sort orders -/

/-- A direction is read back. -/
theorem SortDirection.reads (d : SortDirection) : Json.Reads read (print d.json).toList d where
  begins := by
    rw [json, print]
    exact begins_quote d.name
  read rest _ := by
    have hvariant : variantNamed ([ascending, descending].map fun d => (d.name, d)) d.name =
        .ok d := by
      cases d <;> rfl
    rw [json, print, toList_quote_append]
    simp only [read, readVariant, skipBlank_cons (by decide : isSpace '"' = false),
      stringRest_quote, ok_bind, hvariant]
    rfl

namespace SortOrder

variable {o : SortOrder}

/-- The keys of an order with the texts of their values. -/
def texts (o : SortOrder) : List (String × List Char) :=
  [("property", (quote o.property).toList), ("direction", (print o.direction.json).toList),
    ("ignoreCase", (print (.bool o.ignoreCase)).toList)]

/-- The text is a spelling of the order. -/
def Spells (o : SortOrder) (text : List Char) : Prop := SpellsRecord o.texts text

/-- What a document has given of the order, once some of the keys are read. -/
def draft (o : SortOrder) (read : List String) : Draft where
  property? := if "property" ∈ read then some o.property else none
  direction? := if "direction" ∈ read then some o.direction else none
  ignoreCase? := if "ignoreCase" ∈ read then some o.ignoreCase else none

/-- The printed members of a sort order fill its record. -/
theorem fills (o : SortOrder) : record.Fills o.texts o.draft where
  start := rfl
  strict := rfl
  nodup := by
    change ["property", "direction", "ignoreCase"].Nodup
    decide
  fields := by
    refine .cons (.slot (.quote o.property) ?_ ?_) (.cons (.slot (SortDirection.reads _) ?_ ?_)
      (.cons (.slot (.truth o.ignoreCase) ?_ ?_) .nil))
    all_goals
      intro read
      simp [draft]

/-- An order is read back from each of its spellings. -/
theorem reads {text : List Char} (h : o.Spells text) : Json.Reads read text o := by
  refine o.fills.reads (fun keys hkeys => ?_) h
  simp only [texts, List.forall_mem_cons] at hkeys
  obtain ⟨hproperty, hdirection, hignoreCase, -⟩ := hkeys
  simp only [ofDraft, draft, hproperty, hdirection, hignoreCase, if_true, required, ok_bind]
  rfl

/-- A sort order is spelled by its own text. -/
theorem spells_print (o : SortOrder) : o.Spells (print o.json).toList := by
  rw [json, toList_print_object]
  exact SpellsRecord.object_self o.texts

end SortOrder

/-! ## Sortings -/

namespace Sorting

/-- The text is a list of spellings of the orders. -/
def Spells (s : Sorting) (text : List Char) : Prop :=
  ∃ texts, List.Forall₂ SortOrder.Spells s texts ∧ text = listText texts

/-- A sorting is read from every text that spells it. -/
theorem reads {s : Sorting} {text : List Char} (h : s.Spells text) : Json.Reads read text s := by
  obtain ⟨texts, htexts, rfl⟩ := h
  exact Json.Reads.readList (htexts.flip.imp fun _ _ horder => SortOrder.reads horder)

/-- A sorting is spelled by its own text. -/
theorem spells_print (s : Sorting) : s.Spells (print s.json).toList := by
  refine ⟨_, ?_, by rw [json, toList_print_array]⟩
  rw [List.map_map]
  exact List.forall₂_map_right_iff.mpr (List.forall₂_same.mpr fun o _ => o.spells_print)

end Sorting

/-! ## Pages -/

namespace Page

variable {p : Page}

/-- The keys of a page with the texts of their values. -/
def texts (p : Page) : List (String × List Char) :=
  [(Parameter.offset.name, (print (.int p.offset)).toList),
    (Parameter.pageSize.name, (print (.int p.size)).toList)]

/-- The text is a spelling of the page. -/
def Spells (p : Page) (text : List Char) : Prop := SpellsRecord p.texts text

/-- What a document has given of the page, once some of the keys are read. -/
def draft (p : Page) (read : List String) : Draft where
  offset? := if Parameter.offset.name ∈ read then some p.offset else none
  size? := if Parameter.pageSize.name ∈ read then some p.size else none

/-- The numbers of the page have 64 bits. -/
def Fits (p : Page) : Prop := p.offset < UInt64.size ∧ p.size < UInt64.size

/-- The printed members of a page fill its record. -/
theorem fills (h : p.Fits) : record.Fills p.texts p.draft where
  start := rfl
  strict := rfl
  nodup := by
    change [Parameter.offset.name, Parameter.pageSize.name].Nodup
    decide
  fields := by
    have hne : Parameter.offset.name ≠ Parameter.pageSize.name := by decide
    refine .cons (.slot (.natural h.1) ?_ ?_) (.cons (.slot (.natural h.2) ?_ ?_) .nil)
    all_goals
      intro read
      simp [draft, hne, hne.symm]

/-- A page of 64 bits is read back from each of its spellings. -/
theorem reads {text : List Char} (hfits : p.Fits) (h : p.Spells text) :
    Json.Reads read text p := by
  refine (fills hfits).reads (fun keys hkeys => ?_) h
  simp only [texts, List.forall_mem_cons] at hkeys
  obtain ⟨hoffset, hsize, -⟩ := hkeys
  simp only [ofDraft, draft, hoffset, hsize, if_true, required, ok_bind]
  rfl

/-- A page is spelled by its own text. -/
theorem spells_print (p : Page) : p.Spells (print p.json).toList := by
  rw [json, toList_print_object]
  exact SpellsRecord.object_self p.texts

end Page

/-! ## Documents -/

/-- Directions, orders, sortings and pages are read back from the texts that are written, and
orders, sortings and pages from all other spellings. -/
theorem parameters_read_back :
    (∀ d : SortDirection, document SortDirection.read (print d.json) = .ok d) ∧
      (∀ o : SortOrder, document SortOrder.read (print o.json) = .ok o ∧
        ∀ text, o.Spells text → document SortOrder.read (String.ofList text) = .ok o) ∧
      (∀ s : Sorting, document Sorting.read (print s.json) = .ok s ∧
        ∀ text, s.Spells text → document Sorting.read (String.ofList text) = .ok s) ∧
      ∀ p : Page, p.Fits → document Page.read (print p.json) = .ok p ∧
        ∀ text, p.Spells text → document Page.read (String.ofList text) = .ok p := by
  refine ⟨fun d => ?_, fun o => ⟨?_, fun text htext => (SortOrder.reads htext).document⟩,
    fun s => ⟨?_, fun text htext => (Sorting.reads htext).document⟩,
    fun p hfits => ⟨?_, fun text htext => (Page.reads hfits htext).document⟩⟩
  · simpa using (SortDirection.reads d).document
  · simpa using (SortOrder.reads o.spells_print).document
  · simpa using (Sorting.reads s.spells_print).document
  · simpa using (Page.reads hfits p.spells_print).document

/-- The largest offset, behind a page size and a key that does not count. -/
theorem parameters_read_back_page :
    let page : Page := ⟨UInt64.size - 1, 5⟩
    let text := "\x7b\"__pageSize\":5,\"note\":[null],\"__offset\":18446744073709551615\x7d"
    page.Fits ∧ page.Spells text.toList ∧ document Page.read text = .ok page := by
  intro page text
  have hfits : page.Fits := ⟨by decide, by decide⟩
  have hnone : IsBlank [] := by simp [IsBlank]
  have hnote : IsValue ['[', 'n', 'u', 'l', 'l', ']'] := .list (.last hnone .null hnone)
  have hspells : page.Spells text.toList := by
    have hobject : text.toList = objectText [(Parameter.pageSize.name, ['5']),
        ("note", ['[', 'n', 'u', 'l', 'l', ']']),
        (Parameter.offset.name, "18446744073709551615".toList)] := by
      decide
    rw [hobject]
    refine .object ?_ ?_
    · decide +kernel
    · intro e he hkey
      simp at he
      rcases he with rfl | rfl | rfl
      · exact absurd (by decide) hkey
      · exact hnote
      · exact absurd (by decide) hkey
  obtain ⟨-, -, -, hpages⟩ := parameters_read_back
  refine ⟨hfits, hspells, ?_⟩
  have hread := (hpages page hfits).2 text.toList hspells
  rwa [String.ofList_toList] at hread

end EntityMapping
