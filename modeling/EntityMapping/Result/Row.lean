import EntityMapping.Error
import EntityMapping.Json.Value

/-!
# Rows

A row of a result: values under the aliases of its columns, in column order.  Aliases may
repeat.  A row may also be seen as a map that cannot be changed.

Main results:

- `Row.get?_isSome_iff`: a look-up finds a value exactly under the aliases.
- `RowMap.contains_iff`: the same for the map of a row.
-/

namespace EntityMapping

/-- A row: values under aliases in column order. -/
structure Row where
  elements : List (String × Json)

namespace Row

/-- The value in a column, the first of equally named ones. -/
def get? (r : Row) (column : String) : Option Json :=
  (r.elements.find? (·.1 == column)).map (·.2)

/-- The number of columns. -/
def size (r : Row) : Nat := r.elements.length

/-- Whether there are no columns. -/
def isEmpty (r : Row) : Bool := r.elements.isEmpty

/-- A row has a value for exactly its columns. -/
theorem get?_isSome_iff (r : Row) (column : String) :
    (r.get? column).isSome = true ↔ column ∈ r.elements.map (·.1) := by
  simp [get?, List.find?_isSome]

end Row

/-- A row seen as a map that cannot be changed. -/
structure RowMap where
  row : Row

namespace RowMap

/-- The number of entries, repeated keys counted. -/
def size (m : RowMap) : Nat := m.row.size

/-- Whether there are no entries. -/
def isEmpty (m : RowMap) : Bool := m.row.isEmpty

/-- The value under a key, the first of equal keys. -/
def get? (m : RowMap) (key : String) : Option Json := m.row.get? key

/-- Whether there is a value under a key. -/
def contains (m : RowMap) (key : String) : Bool := (m.get? key).isSome

/-- Whether a value is among those of the map. -/
def containsValue (m : RowMap) (value : Json) : Bool := m.row.elements.any (·.2.same value)

/-- The entries in column order. -/
def entries (m : RowMap) : List (String × Json) := m.row.elements

/-- The keys in column order. -/
def keys (m : RowMap) : List String := m.entries.map (·.1)

/-- The values in column order. -/
def values (m : RowMap) : List Json := m.entries.map (·.2)

/-- The map as an object with all its entries. -/
def json (m : RowMap) : Json := .object m.entries

/-- The answer to every attempt to change the map. -/
def refusal : MappingError := .unsupported "A TupleBackedMap cannot be modified."

/-- A map contains exactly its keys. -/
theorem contains_iff (m : RowMap) (key : String) : m.contains key = true ↔ key ∈ m.keys :=
  m.row.get?_isSome_iff key

end RowMap

end EntityMapping
