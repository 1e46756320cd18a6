import EntityMapping.Json.Reader

/-!
# Sorting

The order in which rows are wanted: properties, each with a direction and a rule for letter
case, the first one counting most.

Main results:

- `SortDirection.name_injective`: a name determines its direction.
-/

namespace EntityMapping

/-- The direction of a sort order. -/
inductive SortDirection
  | ascending
  | descending
deriving DecidableEq, Repr

namespace SortDirection

/-- The name in statements and documents. -/
def name : SortDirection → String
  | ascending => "asc"
  | descending => "desc"

/-- The direction as a value. -/
def json (d : SortDirection) : Json := .string d.name

/-- A direction by name. -/
def read : Json.Reader SortDirection :=
  Json.readVariant ([ascending, descending].map fun d => (d.name, d))

/-- Directions have different names. -/
theorem name_injective {a b : SortDirection} (h : a.name = b.name) : a = b := by
  cases a <;> cases b <;> simp_all [name]

end SortDirection

/-- The order of one property. -/
structure SortOrder where
  property : String
  direction : SortDirection
  ignoreCase : Bool
deriving DecidableEq, Repr

namespace SortOrder

/-- The order as a value. -/
def json (o : SortOrder) : Json :=
  .object
    [("property", .string o.property), ("direction", o.direction.json),
      ("ignoreCase", .bool o.ignoreCase)]

/-- What a document has given of an order so far. -/
structure Draft where
  property? : Option String
  direction? : Option SortDirection
  ignoreCase? : Option Bool

/-- The record of an order. -/
def record : Json.Record Draft :=
  { name := "Order"
    fields :=
      [.slot "property" (·.property?) (fun s p => { s with property? := some p }) Json.readString,
        .slot "direction" (·.direction?) (fun s d => { s with direction? := some d })
          SortDirection.read,
        .slot "ignoreCase" (·.ignoreCase?) (fun s b => { s with ignoreCase? := some b })
          Json.readBool]
    start := ⟨none, none, none⟩
    strict := false
    short := false }

/-- The order, if all of it is given. -/
def ofDraft (s : Draft) : Except Json.Fault SortOrder := do
  let property ← Json.required "property" s.property?
  let direction ← Json.required "direction" s.direction?
  let ignoreCase ← Json.required "ignoreCase" s.ignoreCase?
  return ⟨property, direction, ignoreCase⟩

/-- An order. -/
def read : Json.Reader SortOrder := record.read ofDraft

end SortOrder

/-- Sort orders, the first one counting most. -/
abbrev Sorting := List SortOrder

namespace Sorting

/-- The orders as a value. -/
def json (s : Sorting) : Json := .array (s.map SortOrder.json)

/-- A list of orders. -/
def read : Json.Reader Sorting := Json.readList SortOrder.read

end Sorting

end EntityMapping
