import EntityMapping.Json.Reader
import EntityMapping.Params.Parameter

/-!
# Pages

A page of rows: how many are skipped and how many are wanted, both of 64 bits.

Main results:

- `Page.number_offset_le`: an offset never exceeds the largest number of 64 bits.
- `Page.number_offset_eq`: where it fits, the offset is the number of rows before the page.
-/

namespace EntityMapping

/-- A page of rows. -/
structure Page where
  offset : Nat
  size : Nat
deriving DecidableEq, Repr

namespace Page

/-- The largest number of 64 bits. -/
def maxOffset : Nat := UInt64.size - 1

/-- The page with a number, counted from zero, of pages of one size. -/
def number (page size : Nat) : Page := ⟨min (page * size) maxOffset, size⟩

/-- The members that a page adds to an object. -/
def members (p : Page) : List (String × Json) :=
  [(Parameter.offset.name, .int p.offset), (Parameter.pageSize.name, .int p.size)]

/-- The page as a value. -/
def json (p : Page) : Json := .object p.members

/-- What a document has given of a page so far. -/
structure Draft where
  offset? : Option Nat
  size? : Option Nat

/-- The record of a page. -/
def record : Json.Record Draft :=
  { name := "Pageable"
    fields :=
      [.slot Parameter.offset.name (·.offset?) (fun s n => { s with offset? := some n })
          Json.readNatural,
        .slot Parameter.pageSize.name (·.size?) (fun s n => { s with size? := some n })
          Json.readNatural]
    start := ⟨none, none⟩
    strict := false
    short := false }

/-- The page, if all of it is given. -/
def ofDraft (s : Draft) : Except Json.Fault Page := do
  let offset ← Json.required Parameter.offset.name s.offset?
  let size ← Json.required Parameter.pageSize.name s.size?
  return ⟨offset, size⟩

/-- A page. -/
def read : Json.Reader Page := record.read ofDraft

/-! ## Laws -/

/-- An offset never exceeds the largest one. -/
theorem number_offset_le (page size : Nat) : (number page size).offset ≤ maxOffset :=
  Nat.min_le_right ..

/-- An offset that is small enough is the product of the page number and the page size. -/
theorem number_offset_eq {page size : Nat} (h : page * size ≤ maxOffset) :
    (number page size).offset = page * size :=
  Nat.min_eq_left h

end Page

end EntityMapping
