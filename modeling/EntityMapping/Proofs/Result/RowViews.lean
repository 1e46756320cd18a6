import EntityMapping.Json.Printer
import EntityMapping.Proofs.Json.Objects
import EntityMapping.Result.Row

/-!
# Views of a row

The map of a row can be asked for its size, for keys and for values, and it can be written as an
object.  A row may have several columns with one alias, as a join of two tables with `id` columns
has.  Then the object has fewer keys than the map has entries, and under the alias the value of the
last column, while a look-up finds that of the first.

Main results:

- `RowMap.member?_json`: the object shows the last value under a key.
- `RowMap.length_members_eq_size_iff`: the object has as many keys as the map has entries just if
  no alias is repeated.
- `RowMap.object_views`: what the object shows, and when all views agree.
-/

namespace EntityMapping.RowMap

open Json

variable {m : RowMap}

/-- The members of the object as which the map is written. -/
def members (m : RowMap) : List (String × Json) := normalMembers [] m.entries

/-- The value of the last column with an alias. -/
def last? (m : RowMap) (key : String) : Option Json := Json.last? key m.entries

/-- The views of a map agree: the object has as many keys as the map has entries, they are those
that the map contains, and under each the object has the value that the map has there.  Values are
compared in normal form, in which no order of members counts. -/
structure ViewsAgree (m : RowMap) : Prop where
  count : m.members.length = m.size
  keys : ∀ key, key ∈ m.members.map (·.1) ↔ m.contains key = true
  values : ∀ key, m.json.normal.member? key = (m.get? key).map normal

/-- The map is written as an object with its members. -/
theorem normal_json (m : RowMap) : m.json.normal = .object m.members := by
  rw [json, normal, members]

/-- A value is looked up as in an object with all entries of the row. -/
theorem get?_eq_member? (m : RowMap) (key : String) :
    m.get? key = (object m.entries).member? key := rfl

/-- The object has the keys that the map contains. -/
theorem mem_keys_members (m : RowMap) (key : String) :
    key ∈ m.members.map (·.1) ↔ m.contains key = true := by
  rw [contains_iff, members, mem_keys_normal, keys]

/-- The object shows the last value under a key. -/
theorem member?_json (m : RowMap) (key : String) :
    m.json.normal.member? key = (m.last? key).map normal :=
  member?_normal key m.entries

/-- A row has as many members as different keys. -/
theorem length_members (m : RowMap) : m.members.length = m.keys.dedup.length :=
  length_normalMembers m.entries

/-- The object has as many keys as the map has entries just if no alias is repeated. -/
theorem length_members_eq_size_iff : m.members.length = m.size ↔ m.keys.Nodup := by
  have hsize : m.size = m.keys.length := by
    rw [keys, List.length_map]
    rfl
  rw [length_members, hsize]
  constructor
  · intro hlength
    rw [← (List.dedup_sublist m.keys).eq_of_length hlength]
    exact List.nodup_dedup m.keys
  · intro hnodup
    rw [hnodup.dedup]

/-- The views of a row agree exactly if its keys are different. -/
theorem viewsAgree_iff : m.ViewsAgree ↔ m.keys.Nodup := by
  constructor
  · intro h
    exact length_members_eq_size_iff.mp h.count
  · intro hnodup
    refine ⟨length_members_eq_size_iff.mpr hnodup, m.mem_keys_members, fun key => ?_⟩
    rw [get?_eq_member?]
    exact member?_normal_of_nodup hnodup

/-- The map of a row is written as an object that has just the keys that the map contains, each
once, with the value of the last column of that alias.  So it has as many keys as there are
different aliases, and it agrees with the size of the map, and with the map as a whole, exactly if
no alias is repeated. -/
theorem object_views (m : RowMap) :
    m.json.normal = .object m.members ∧
      (m.members.map (·.1)).Nodup ∧
      (∀ key, key ∈ m.members.map (·.1) ↔ m.contains key = true) ∧
      (∀ key, m.json.normal.member? key = (m.last? key).map normal) ∧
      m.members.length = m.keys.dedup.length ∧
      (m.members.length = m.size ↔ m.keys.Nodup) ∧
      (m.ViewsAgree ↔ m.keys.Nodup) :=
  ⟨m.normal_json, nodup_keys_normal m.entries, m.mem_keys_members, m.member?_json, m.length_members,
    length_members_eq_size_iff, viewsAgree_iff⟩

/-- A row of two joined tables that both have a column `id`. -/
def joined : RowMap := ⟨⟨[("id", .int 1), ("id", .int 2)]⟩⟩

/-- The map of the joined row has two entries and finds the first id, the object has one key with
the second id, and the text has both. -/
theorem joined_views_differ :
    joined.size = 2 ∧ joined.contains "id" = true ∧ joined.get? "id" = some (.int 1) ∧
      joined.json.normal = .object [("id", .int 2)] ∧
      joined.json.print = "\x7b\"id\":1,\"id\":2\x7d" ∧ ¬ joined.ViewsAgree := by
  refine ⟨rfl, rfl, rfl, ?_, by decide, ?_⟩
  · rw [normal_json]
    simp [members, joined, entries, normalMembers, normal, Entries.insert,
      KeyOrder.before_irrefl]
  · rw [viewsAgree_iff]
    decide

end EntityMapping.RowMap
