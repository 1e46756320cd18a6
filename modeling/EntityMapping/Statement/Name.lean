/-!
# Names of generated statements

The eighteen statements that are generated for a repository, in the order in which they are
made.

Main results:

- `StatementName.mem_all`, `StatementName.all_nodup`: every name occurs once in that order.
- `StatementName.id_injective`: different names have different ids.
-/

namespace EntityMapping

/-- The name of a generated statement. -/
inductive StatementName
  | resultMap
  | baseColumnList
  | insertSelective
  | insert
  | updateSelectiveById
  | updateSelective
  | updateById
  | update
  | deleteById
  | deleteByIds
  | deleteAll
  | getById
  | findByPager
  | find
  | countAll
  | count
  | exampleWhereClause
  | findByExample
deriving DecidableEq, Repr

namespace StatementName

/-- All names, in the order of generation. -/
def all : List StatementName :=
  [resultMap, baseColumnList, insertSelective, insert, updateSelectiveById, updateSelective,
    updateById, update, deleteById, deleteByIds, deleteAll, getById, findByPager, find, countAll,
    count, exampleWhereClause, findByExample]

/-- The id of the statement. -/
def id : StatementName → String
  | resultMap => "__result_map"
  | baseColumnList => "__base_column_list"
  | insertSelective => "__insert_selective"
  | insert => "__insert"
  | updateSelectiveById => "__update_selective_by_id"
  | updateSelective => "__update_selective"
  | updateById => "__update_by_id"
  | update => "__update"
  | deleteById => "__delete_by_id"
  | deleteByIds => "__delete_by_ids"
  | deleteAll => "__delete_all"
  | getById => "__get_by_id"
  | findByPager => "__find_by_pager"
  | find => "__find"
  | countAll => "__count_all"
  | count => "__count"
  | exampleWhereClause => "__example_where_clause"
  | findByExample => "__find_by_example"

/-- Whether the statement addresses rows by their key. -/
def needsKey : StatementName → Bool
  | updateSelectiveById => true
  | updateSelective => true
  | updateById => true
  | update => true
  | deleteById => true
  | deleteByIds => true
  | getById => true
  | _ => false

/-- Whether the statement serves example queries. -/
def needsExample : StatementName → Bool
  | exampleWhereClause => true
  | findByExample => true
  | _ => false

/-- The name with an id. -/
def ofId? (text : String) : Option StatementName := all.find? (·.id == text)

/-- The list has every name. -/
theorem mem_all (n : StatementName) : n ∈ all := by
  cases n <;> simp [all]

/-- The list has no name twice. -/
theorem all_nodup : all.Nodup := by decide

@[simp]
theorem ofId?_id (n : StatementName) : ofId? n.id = some n := by
  cases n <;> decide

/-- Names have different ids. -/
theorem id_injective {a b : StatementName} (h : a.id = b.id) : a = b :=
  Option.some.inj ((ofId?_id a).symm.trans (h ▸ ofId?_id b))

end StatementName

end EntityMapping
