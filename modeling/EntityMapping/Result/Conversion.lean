import EntityMapping.Result.Row

/-!
# Conversion of results

What a statement gives back, and how it becomes what a query declares to return: a row with
one column gives way to its value where that fits, every other row is shown as a map.

Main results:

- `QueryResult.convertItems_eq_map`: lists are converted item by item.
- `QueryResult.convert_row`: what becomes of a row.
-/

namespace EntityMapping

/-! ## Return types -/

/-- What a query declares to return. -/
inductive ReturnType
  | any
  | bool
  | integer
  | number
  | string
  | array
  | object
deriving DecidableEq, Repr

/-- Whether a value can be returned as the type. -/
def ReturnType.accepts : ReturnType → Json → Bool
  | .any, _ => true
  | .bool, .bool _ => true
  | .integer, .int _ => true
  | .number, .int _ => true
  | .number, .float _ => true
  | .string, .string _ => true
  | .array, .array _ => true
  | .object, .object _ => true
  | _, _ => false

/-! ## Results -/

/-- A result before or after its conversion. -/
inductive QueryResult
  | value (value : Json)
  | row (row : Row)
  | map (map : RowMap)
  | list (items : List QueryResult)
deriving Inhabited

namespace QueryResult

/-- Whether the result is a plain value. -/
def isValue : QueryResult → Bool
  | value _ => true
  | _ => false

/-- Whether the result is a map. -/
def isMap : QueryResult → Bool
  | map _ => true
  | _ => false

/-- What a row becomes. -/
def ofRow (t : ReturnType) (r : Row) : QueryResult :=
  match r.elements with
  | [(_, v)] => if v.isNull || t.accepts v then value v else map ⟨r⟩
  | _ => map ⟨r⟩

mutual

/-- The result as a query of the type returns it. -/
def convert (t : ReturnType) : QueryResult → QueryResult
  | value v => value v
  | row r => ofRow t r
  | map m => map m
  | list items => list (convertItems t items)

/-- The items of a list as a query of the type returns them. -/
def convertItems (t : ReturnType) : List QueryResult → List QueryResult
  | [] => []
  | item :: rest => convert t item :: convertItems t rest

end

/-! ## Laws -/

/-- The items of a list are converted one by one. -/
theorem convertItems_eq_map (t : ReturnType) (items : List QueryResult) :
    convertItems t items = items.map (convert t) := by
  induction items with
  | nil => rfl
  | cons item rest ih => rw [convertItems, ih, List.map_cons]

@[simp]
theorem convert_row (t : ReturnType) (r : Row) : convert t (row r) = ofRow t r := rfl

end QueryResult

end EntityMapping
