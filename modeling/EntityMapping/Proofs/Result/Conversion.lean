import EntityMapping.Result.Conversion
import Mathlib.Data.List.Forall2

/-!
# Converted results

Conversion replaces the rows of a result, however deep in lists they stand, and leaves everything
else as it is.  A row collapses to its value if that is its only one and may be returned; every
other row is shown as a map of all its columns.  Nothing is left then for another conversion, so
the first return type decides.

Main results:

- `ReturnType.accepts_iff`: the values that may be returned as a type.
- `QueryResult.ofRow_cases`: what becomes of a row.
- `QueryResult.converts_iff`: conversion is the replacement of rows, and nothing else.
- `QueryResult.convert_replaces_rows`: what conversion gives, and that it settles the result.
-/

namespace EntityMapping

/-! ## Instances -/

/-- The value is an instance of the return type. -/
inductive ReturnType.HasInstance : ReturnType → Json → Prop
  | any (v : Json) : HasInstance .any v
  | bool (b : Bool) : HasInstance .bool (.bool b)
  | integer (n : Int) : HasInstance .integer (.int n)
  | wholeNumber (n : Int) : HasInstance .number (.int n)
  | fraction (x : Json.Binary64) : HasInstance .number (.float x)
  | string (s : String) : HasInstance .string (.string s)
  | array (items : List Json) : HasInstance .array (.array items)
  | object (members : List (String × Json)) : HasInstance .object (.object members)

/-- A type accepts exactly the values that it has. -/
theorem ReturnType.accepts_iff {t : ReturnType} {v : Json} :
    t.accepts v = true ↔ t.HasInstance v := by
  constructor
  · intro h
    cases t <;> cases v <;> first | constructor | cases h
  · intro h
    cases h <;> rfl

/-- Only null is null. -/
theorem Json.isNull_iff {v : Json} : v.isNull = true ↔ v = .null := by
  cases v <;> simp [isNull]

/-! ## Rows -/

/-- The row collapses to the value: it has no other, and the value is an instance of the return
type or null. -/
def Row.CollapsesTo (t : ReturnType) (r : Row) (v : Json) : Prop :=
  (∃ column, r.elements = [(column, v)]) ∧ (v = .null ∨ t.HasInstance v)

namespace QueryResult

/-- A row becomes the value that it collapses to, or else the map of its columns. -/
theorem ofRow_cases (t : ReturnType) (r : Row) :
    (∃ v, r.CollapsesTo t v ∧ ofRow t r = value v) ∨
      (∀ v, ¬ r.CollapsesTo t v) ∧ ofRow t r = map ⟨r⟩ := by
  obtain ⟨elements⟩ := r
  match elements with
  | [(column, v)] =>
    have fits : (v.isNull || t.accepts v) = true ↔ v = .null ∨ t.HasInstance v := by
      rw [Bool.or_eq_true, Json.isNull_iff, ReturnType.accepts_iff]
    by_cases h : v = .null ∨ t.HasInstance v
    · exact .inl ⟨v, ⟨⟨column, rfl⟩, h⟩, if_pos (fits.mpr h)⟩
    · refine .inr ⟨?_, if_neg (mt fits.mp h)⟩
      rintro w ⟨⟨_, hw⟩, hfits⟩
      cases hw
      exact h hfits
  | [] => exact .inr ⟨fun _ ⟨⟨_, h⟩, _⟩ => (nomatch h), rfl⟩
  | _ :: _ :: _ => exact .inr ⟨fun _ ⟨⟨_, h⟩, _⟩ => (nomatch h), rfl⟩

/-! ## Replacement of rows -/

/-- One result becomes the other by the replacement of its rows: the items of a list become those
at the same places, and a value or a map stays. -/
inductive Converts (t : ReturnType) : QueryResult → QueryResult → Prop
  | value (v : Json) : Converts t (value v) (value v)
  | map (m : RowMap) : Converts t (map m) (map m)
  | collapsed {r : Row} {v : Json} (h : r.CollapsesTo t v) : Converts t (row r) (value v)
  | shown {r : Row} {m : RowMap} (h : ∀ v, ¬ r.CollapsesTo t v) (entries : m.entries = r.elements) :
    Converts t (row r) (map m)
  | list {items items' : List QueryResult} (h : List.Forall₂ (Converts t) items items') :
    Converts t (list items) (list items')

/-- Induction on a result, with the items of a list as smaller results. -/
@[elab_as_elim]
theorem item_induction {motive : QueryResult → Prop} (value : ∀ v, motive (value v))
    (row : ∀ r, motive (row r)) (map : ∀ m, motive (map m))
    (list : ∀ items, (∀ item ∈ items, motive item) → motive (list items)) :
    ∀ result, motive result
  | .value v => value v
  | .row r => row r
  | .map m => map m
  | .list items => list items fun item _ => item_induction value row map list item

@[simp]
theorem convert_list (t : ReturnType) (items : List QueryResult) :
    convert t (list items) = list (items.map (convert t)) := by
  rw [convert, convertItems_eq_map]

/-- A relation that is a function on the elements of a list is that function on the list. -/
theorem forall₂_iff_map_eq {α β : Type} {R : α → β → Prop} {f : α → β} {as : List α} {bs : List β}
    (h : ∀ a ∈ as, ∀ b, R a b ↔ f a = b) : List.Forall₂ R as bs ↔ as.map f = bs := by
  induction as generalizing bs with
  | nil => simp [eq_comm]
  | cons a rest ih =>
    obtain ⟨hfirst, hrest⟩ := List.forall_mem_cons.mp h
    cases bs with
    | nil => simp
    | cons b bs =>
      rw [List.forall₂_cons, hfirst, ih hrest, List.map_cons, List.cons.injEq]

/-- A row is converted to what becomes of it, and to nothing else. -/
theorem converts_row_iff {t : ReturnType} {r : Row} {result : QueryResult} :
    Converts t (row r) result ↔ ofRow t r = result := by
  rcases ofRow_cases t r with ⟨v, hcollapses, hvalue⟩ | ⟨hkept, hmap⟩
  · rw [hvalue]
    constructor
    · intro h
      cases h with
      | @collapsed _ w hw =>
        obtain ⟨⟨_, hv⟩, -⟩ := hcollapses
        obtain ⟨⟨_, hw⟩, -⟩ := hw
        cases hv.symm.trans hw
        rfl
      | shown hkept => exact absurd hcollapses (hkept v)
    · rintro rfl
      exact .collapsed hcollapses
  · rw [hmap]
    constructor
    · intro h
      cases h with
      | collapsed hw => exact absurd hw (hkept _)
      | @shown _ m _ hentries =>
        obtain ⟨⟨entries⟩⟩ := m
        cases hentries
        rfl
    · rintro rfl
      exact .shown hkept rfl

/-- Conversion is the replacement of rows. -/
theorem converts_iff {t : ReturnType} {result result' : QueryResult} :
    Converts t result result' ↔ convert t result = result' := by
  induction result using item_induction generalizing result' with
  | value v =>
    constructor
    · rintro ⟨⟩
      rfl
    · rintro rfl
      exact .value v
  | map m =>
    constructor
    · rintro ⟨⟩
      rfl
    · rintro rfl
      exact .map m
  | row r => exact converts_row_iff
  | list items ih =>
    have hitems (items' : List QueryResult) :
        List.Forall₂ (Converts t) items items' ↔ items.map (convert t) = items' :=
      forall₂_iff_map_eq fun item hitem _ => ih item hitem
    rw [convert_list]
    constructor
    · rintro ⟨⟩
      next items' h => rw [(hitems items').mp h]
    · rintro rfl
      exact .list ((hitems _).mpr rfl)

/-! ## Results without rows -/

/-- The result is part of another one: it is all of it, or part of an item of a list. -/
inductive PartOf (part : QueryResult) : QueryResult → Prop
  | whole : PartOf part part
  | item {result : QueryResult} {items : List QueryResult} (hmem : result ∈ items)
    (h : PartOf part result) : PartOf part (list items)

/-- No row is part of the result. -/
def Rowless (result : QueryResult) : Prop := ∀ r, ¬ PartOf (row r) result

/-- A value has no row. -/
theorem rowless_value (v : Json) : Rowless (value v) := fun _ h => nomatch h

/-- A map has no row. -/
theorem rowless_map (m : RowMap) : Rowless (map m) := fun _ h => nomatch h

/-- A row has a row. -/
theorem not_rowless_row (r : Row) : ¬ Rowless (row r) := fun h => h r .whole

/-- A list has no row exactly if none of its items has. -/
theorem rowless_list_iff {items : List QueryResult} :
    Rowless (list items) ↔ ∀ item ∈ items, Rowless item := by
  constructor
  · exact fun h item hitem r hr => h r (.item hitem hr)
  · rintro h r ⟨⟩
    next item hr hitem => exact h item hitem r hr

/-- Conversion leaves no row. -/
theorem rowless_convert (t : ReturnType) (result : QueryResult) : Rowless (convert t result) := by
  induction result using item_induction with
  | value v => exact rowless_value v
  | map m => exact rowless_map m
  | row r =>
    rw [convert_row]
    rcases ofRow_cases t r with ⟨v, -, hvalue⟩ | ⟨-, hmap⟩
    · exact hvalue ▸ rowless_value v
    · exact hmap ▸ rowless_map _
  | list items ih =>
    rw [convert_list, rowless_list_iff, List.forall_mem_map]
    exact ih

/-- Conversion leaves a result without rows as it is. -/
theorem convert_of_rowless {result : QueryResult} (h : Rowless result) (t : ReturnType) :
    convert t result = result := by
  induction result using item_induction with
  | value v => rfl
  | map m => rfl
  | row r => exact absurd h (not_rowless_row r)
  | list items ih =>
    rw [rowless_list_iff] at h
    have hitems : items.map (convert t) = items :=
      (List.map_congr_left fun item hitem => ih item hitem (h item hitem)).trans (List.map_id _)
    rw [convert_list, hitems]

/-- Conversion gives the one result that the replacement of rows leads to.  No row is part of it,
and a conversion to any other type changes nothing in it. -/
theorem convert_replaces_rows (t : ReturnType) (result : QueryResult) :
    (∀ result', Converts t result result' ↔ convert t result = result') ∧
      Rowless (convert t result) ∧ ∀ t', convert t' (convert t result) = convert t result :=
  ⟨fun _ => converts_iff, rowless_convert t result,
    convert_of_rowless (rowless_convert t result)⟩

example : convert .string (list [row ⟨[("name", .null)]⟩, list [row ⟨[("id", .int 1)]⟩, row ⟨[]⟩]]) =
    list [value .null, list [map ⟨⟨[("id", .int 1)]⟩⟩, map ⟨⟨[]⟩⟩]] := by
  rfl

end QueryResult

end EntityMapping
