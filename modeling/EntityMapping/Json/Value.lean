import EntityMapping.Json.Binary64
import EntityMapping.SortedMap

/-!
# JSON values

JSON documents as trees.  Integers and floating point numbers are different kinds of
number, and objects keep their members in the order in which they are given; the normal
form of a value has the members of every object in key order, the last of equal keys
winning.

Main results:

- `Json.normalMembers_sorted`: normal objects are in strictly increasing key order.
-/

namespace EntityMapping

/-- A JSON value. -/
inductive Json
  | null
  | bool (b : Bool)
  | int (n : Int)
  | float (x : Json.Binary64)
  | string (s : String)
  | array (items : List Json)
  | object (members : List (String × Json))
deriving Inhabited

namespace Json

/-! ## Equality -/

mutual

/-- Equality of normal values: numbers of different kinds differ, the two zeros do not. -/
def same : Json → Json → Bool
  | .null, .null => true
  | .bool a, .bool b => a == b
  | .int a, .int b => a == b
  | .float a, .float b => a.same b
  | .string a, .string b => a == b
  | .array a, .array b => sameItems a b
  | .object a, .object b => sameMembers a b
  | _, _ => false

/-- Equality of lists of values. -/
def sameItems : List Json → List Json → Bool
  | [], [] => true
  | a :: as, b :: bs => same a b && sameItems as bs
  | _, _ => false

/-- Equality of lists of members. -/
def sameMembers : List (String × Json) → List (String × Json) → Bool
  | [], [] => true
  | (k, a) :: as, (l, b) :: bs => k == l && same a b && sameMembers as bs
  | _, _ => false

end

/-! ## Normal form -/

mutual

/-- The value with the members of every object in key order, the last of equal keys kept. -/
def normal : Json → Json
  | .array items => .array (normalItems items)
  | .object members => .object (normalMembers [] members)
  | .null => .null
  | .bool b => .bool b
  | .int n => .int n
  | .float x => .float x
  | .string s => .string s

/-- The normal forms of the items. -/
def normalItems : List Json → List Json
  | [] => []
  | item :: rest => normal item :: normalItems rest

/-- The members added in order, each in normal form, to members in key order. -/
def normalMembers (acc : List (String × Json)) : List (String × Json) → List (String × Json)
  | [] => acc
  | (k, v) :: rest => normalMembers (Entries.insert k (normal v) acc) rest

end

/-- Members that are entered one after the other stay sorted. -/
theorem normalMembers_sorted {acc members : List (String × Json)} (h : Entries.Sorted acc) :
    Entries.Sorted (normalMembers acc members) := by
  induction members generalizing acc with
  | nil => simpa [normalMembers] using h
  | cons m rest ih =>
    obtain ⟨k, v⟩ := m
    rw [normalMembers]
    exact ih (Entries.sorted_insert k _ h)

/-! ## Access -/

/-- The member of an object under a key, the first of equal keys. -/
def member? (key : String) : Json → Option Json
  | .object members => (members.find? (·.1 == key)).map (·.2)
  | _ => none

/-- Whether the value is null. -/
def isNull : Json → Bool
  | .null => true
  | _ => false

/-- The object with a null for every absent member. -/
def ofOption (f : α → Json) : Option α → Json
  | some a => f a
  | none => .null

end Json

end EntityMapping
