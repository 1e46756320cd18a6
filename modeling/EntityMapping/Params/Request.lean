import EntityMapping.Error
import EntityMapping.Json.Printer
import EntityMapping.Params.Page
import EntityMapping.Params.Sorting

/-!
# Requests

The object of values that a statement is called with.  A value that is set to null is there;
a value that is not set has no member, and an empty sorting is not set.

Main results:

- `Request.apply_entity` and its companions: a change touches its own value only.
- `Request.apply_sorting_nil`: an empty sorting takes an older one away.
-/

namespace EntityMapping

/-- The values of a call. -/
structure Request where
  entity? : Option Json
  id? : Option Json
  ids? : Option (List Json)
  condition? : Option Json
  sorting? : Option Sorting
  page? : Option Page

namespace Request

/-- The request in which nothing is set. -/
def empty : Request := ⟨none, none, none, none, none, none⟩

/-- A change of one value. -/
inductive Change
  | entity (value : Json)
  | id (value : Json)
  | ids (values : List Json)
  | condition (value : Json)
  | sorting (orders : Sorting)
  | page (page : Page)

/-- The request after a change. -/
def apply (r : Request) : Change → Request
  | .entity value => { r with entity? := some value }
  | .id value => { r with id? := some value }
  | .ids values => { r with ids? := some values }
  | .condition value => { r with condition? := some value }
  | .sorting orders => { r with sorting? := if orders.isEmpty then none else some orders }
  | .page page => { r with page? := some page }

/-- The member of a parameter that may be set. -/
def member (p : Parameter) (value? : Option Json) : List (String × Json) :=
  (value?.map fun value => (p.name, value)).toList

/-- The members of the request in the order of the parameters. -/
def members (r : Request) : List (String × Json) :=
  member .entity r.entity? ++ member .id r.id? ++ member .ids (r.ids?.map .array) ++
    member .condition r.condition? ++ member .sort (r.sorting?.map Sorting.json) ++
    (r.page?.map Page.members).getD []

/-- The request as a value, members in the order of the parameters. -/
def json (r : Request) : Json := .object r.members

/-! ## Keys -/

/-- The text that serves as a key for a value: strings, whole numbers and truth values have
one. -/
def keyText? : Json → Option String
  | .string s => some s
  | .int n => some (toString n)
  | .bool true => some "true"
  | .bool false => some "false"
  | _ => none

/-- The object with members under keys that are values. -/
def objectOfPairs (pairs : List (Json × Json)) : Except MappingError Json :=
  match pairs.mapM fun p => (keyText? p.1).map fun key => (key, p.2) with
  | some members => .ok (.object members)
  | none => .error (.parameters Json.Fault.keyNotString.message)

/-! ## Laws -/

@[simp]
theorem apply_entity (r : Request) (v : Json) :
    r.apply (.entity v) = { r with entity? := some v } := rfl

@[simp]
theorem apply_id (r : Request) (v : Json) : r.apply (.id v) = { r with id? := some v } := rfl

@[simp]
theorem apply_ids (r : Request) (vs : List Json) :
    r.apply (.ids vs) = { r with ids? := some vs } := rfl

@[simp]
theorem apply_condition (r : Request) (v : Json) :
    r.apply (.condition v) = { r with condition? := some v } := rfl

@[simp]
theorem apply_page (r : Request) (p : Page) :
    r.apply (.page p) = { r with page? := some p } := rfl

@[simp]
theorem apply_sorting_nil (r : Request) : r.apply (.sorting []) = { r with sorting? := none } :=
  rfl

@[simp]
theorem apply_sorting_cons (r : Request) (o : SortOrder) (rest : Sorting) :
    r.apply (.sorting (o :: rest)) = { r with sorting? := some (o :: rest) } := rfl

end Request

end EntityMapping
