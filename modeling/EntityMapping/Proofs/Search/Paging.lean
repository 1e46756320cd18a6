import EntityMapping.Proofs.Search.Find

/-!
# Pages of a search

What the search for a page finds, as the database reads its statement.  The clause of a page
counts the rows to skip and to keep in most dialects; Oracle numbers the rows of the query from
one, as far as the page reaches, and then drops those before the page.  Either way the rows of a
page are those whose index, divided by the size of the pages, is its number.

Main results:

- `rowsOfPage_eq`: the rows of a page follow each other.
- `flatMap_rowsOfPage`: the first pages together are the first rows.
- `Dialect.readWindow?_window`: the clause of a page is read as its window.
- `Generator.pages_tile`: the pages of a search are the pages of its rows.
-/

namespace EntityMapping

/-! ## Rows by index -/

section Rows

variable {Row : Type} {rows : List Row}

/-- The rows numbered below a bound are the first ones. -/
theorem filter_zipIdx_lt (start n : Nat) :
    (rows.zipIdx start).filter (fun r => r.2 < start + n) = (rows.take n).zipIdx start := by
  induction rows generalizing start n with
  | nil => simp
  | cons row rest ih =>
    cases n with
    | zero =>
      rw [List.take_zero, List.zipIdx_nil, List.filter_eq_nil_iff]
      intro r hr
      simpa using List.le_snd_of_mem_zipIdx hr
    | succ n =>
      have hrest := ih (start + 1) n
      rw [Nat.add_right_comm] at hrest
      simp [List.zipIdx_cons, ← hrest, Nat.add_assoc]

/-- The rows numbered from a bound on are those behind the first ones. -/
theorem map_filter_zipIdx_le (start n : Nat) :
    ((rows.zipIdx start).filter fun r => start + n ≤ r.2).map (·.1) = rows.drop n := by
  induction rows generalizing start n with
  | nil => simp
  | cons row rest ih =>
    cases n with
    | zero =>
      rw [List.filter_eq_self.mpr fun r hr => by simpa using List.le_snd_of_mem_zipIdx hr]
      simp
    | succ n =>
      have hrest := ih (start + 1) n
      rw [Nat.add_right_comm] at hrest
      simp [List.zipIdx_cons, ← hrest, Nat.add_assoc]

/-- The rows whose index, counted from zero, is on a page. -/
def rowsOfPage (rows : List Row) (page size : Nat) : List Row :=
  (rows.zipIdx.filter fun r => 0 < size ∧ r.2 / size = page).map (·.1)

/-- The rows of a page follow each other. -/
theorem rowsOfPage_eq (page size : Nat) :
    rowsOfPage rows page size = (rows.drop (page * size)).take size := by
  have hindex (i : Nat) : (0 < size ∧ i / size = page) ↔
      0 + page * size ≤ i ∧ i < 0 + (page * size + size) := by
    rcases Nat.eq_zero_or_pos size with rfl | hpos
    · simp
    · rw [Nat.div_eq_iff hpos]
      omega
  simp only [rowsOfPage, hindex, Bool.decide_and]
  rw [← List.filter_filter, filter_zipIdx_lt, map_filter_zipIdx_le, List.drop_take,
    Nat.add_sub_cancel_left]

/-- The first pages together are the first rows. -/
theorem flatMap_rowsOfPage (pages size : Nat) :
    (List.range pages).flatMap (fun page => rowsOfPage rows page size) =
      rows.take (pages * size) := by
  induction pages with
  | zero => simp
  | succ n ih =>
    rw [List.range_succ, List.flatMap_append, ih, List.flatMap_singleton, rowsOfPage_eq,
      Nat.succ_mul, List.take_add]

/-- The rows numbered from `next` on, as long as they are kept.  A row that is not kept gives
its number back. -/
def numbered (keep : Nat → Bool) : Nat → List Row → List (Row × Nat)
  | _, [] => []
  | next, row :: rest =>
    if keep next then (row, next) :: numbered keep (next + 1) rest else numbered keep next rest

/-- Numbering up to a bound keeps the first rows. -/
theorem numbered_lt (start n : Nat) :
    numbered (· < start + n) start rows = (rows.take n).zipIdx start := by
  induction rows generalizing start n with
  | nil => simp [numbered]
  | cons row rest ih =>
    cases n with
    | zero => simpa [numbered] using ih start 0
    | succ n =>
      have hrest := ih (start + 1) n
      rw [Nat.add_right_comm] at hrest
      simp [numbered, List.zipIdx_cons, ← hrest, Nat.add_assoc]

end Rows

/-! ## Windows -/

/-- How a statement restricts the rows of its query: to a number of rows after others, or to
the rows numbered up to a number and above another. -/
inductive Window
  | limit (count skipped : Nat)
  | rowNumbers (last above : Nat)

namespace Window

/-- The rows inside the window. -/
def rows {Row : Type} : Window → List Row → List Row
  | limit count skipped, rows => (rows.drop skipped).take count
  | rowNumbers last above, rows =>
    ((numbered (· ≤ last) 1 rows).filter fun r => above < r.2).map (·.1)

/-- Numbers counted from one up to the end of a page leave the same rows as a limit. -/
theorem rows_rowNumbers {Row : Type} (rows : List Row) (offset size : Nat) :
    (rowNumbers (offset + size) offset).rows rows = (limit size offset).rows rows := by
  have hlast : numbered (· ≤ offset + size) 1 rows = (rows.take (offset + size)).zipIdx 1 := by
    rw [← numbered_lt]
    congr 1
    funext i
    simp only [decide_eq_decide]
    omega
  have habove (i : Nat) : offset < i ↔ 1 + offset ≤ i := by omega
  simp only [Window.rows, hlast, habove]
  rw [map_filter_zipIdx_le, List.drop_take, Nat.add_sub_cancel_left]

end Window

/-! ## Reading a statement -/

namespace Sql

/-- What stands before a text at the end of SQL, if it is there. -/
def before? (ending : String) (sql : Sql) : Option Sql :=
  (after? ending.toList.reverse sql.reverse).map List.reverse

/-- What stands before a number that is bound at the end of SQL, with the number. -/
def beforeNumber? (sql : Sql) : Option (Sql × Nat) :=
  match sql.getLast? with
  | some (.bound (.int (.ofNat n)) _) => some (sql.dropLast, n)
  | _ => none

/-- An ending is taken off. -/
theorem before?_append (sql : Sql) (ending : String) :
    before? ending (sql ++ text ending) = some sql := by
  simp [before?, text, ← List.map_reverse]

/-- A number at the end is taken off. -/
theorem beforeNumber?_append (sql : Sql) (n : Nat) (type? : Option JdbcType) :
    beforeNumber? (sql ++ [.bound (.int n) type?]) = some (sql, n) := by
  simp [beforeNumber?]

end Sql

namespace Dialect

/-- The query and the window of a statement with a page clause, as its database reads it. -/
def readWindow? (d : Dialect) (statement : Sql) : Option (Sql × Window) :=
  match d with
  | .postgres | .h2 => do
    let (rest, skipped) ← Sql.beforeNumber? statement
    let (rest, count) ← Sql.beforeNumber? (← Sql.before? " offset " rest)
    return (← Sql.before? " limit " rest, .limit count skipped)
  | .mysql => do
    let (rest, count) ← Sql.beforeNumber? statement
    let (rest, skipped) ← Sql.beforeNumber? (← Sql.before? ", " rest)
    return (← Sql.before? " limit " rest, .limit count skipped)
  | .oracle => do
    let (rest, above) ← Sql.beforeNumber? statement
    let (rest, second) ← Sql.beforeNumber? (← Sql.before? " ) where rownum_ > " rest)
    let (rest, first) ← Sql.beforeNumber? (← Sql.before? " + " rest)
    let rest ← Sql.before? " ) row_ where rownum <= " rest
    let query ← Sql.after? "select * from ( select row_.*, rownum rownum_ from ( ".toList rest
    return (query, .rowNumbers (first + second) above)

/-- The window of a page. -/
def pageWindow (d : Dialect) (page : Page) : Window :=
  match d with
  | .oracle => .rowNumbers (page.offset + page.size) page.offset
  | _ => .limit page.size page.offset

/-- The clause of a page is read as its window. -/
theorem readWindow?_window (d : Dialect) (query : Sql) (page : Page) :
    d.readWindow? (d.windowFront ++ query ++ d.windowBack (.int page.offset) (.int page.size)) =
      some (query, d.pageWindow page) := by
  cases d <;>
    simp only [readWindow?, windowFront, windowBack, pageWindow, ← List.append_assoc,
      List.nil_append, Sql.beforeNumber?_append, Sql.before?_append, Option.bind_eq_bind,
      Option.bind_some, Option.pure_def]
  rw [Sql.text, Sql.after?_append, Option.bind_some]

/-- What a statement with a page clause finds, by what the database answers to its query. -/
def rowsOfWindow? {Row : Type} (d : Dialect) (answer : Sql → List Row) (statement : Sql) :
    Option (List Row) :=
  (d.readWindow? statement).map fun (query, window) => window.rows (answer query)

/-- Where the offset is cut off, no row is left. -/
theorem rows_pageWindow {Row : Type} {rows : List Row} (d : Dialect) (page size : Nat)
    (hrows : rows.length < UInt64.size) :
    (d.pageWindow (.number page size)).rows rows = rowsOfPage rows page size := by
  have hlimit : (d.pageWindow (.number page size)).rows rows =
      (rows.drop (min (page * size) Page.maxOffset)).take size := by
    cases d
    case oracle => exact Window.rows_rowNumbers rows _ size
    all_goals rfl
  have hdrop : rows.drop (min (page * size) Page.maxOffset) = rows.drop (page * size) := by
    rcases Nat.le_total (page * size) Page.maxOffset with hfits | hcut
    · rw [Nat.min_eq_left hfits]
    · have hlength : rows.length ≤ Page.maxOffset := Nat.le_sub_one_of_lt hrows
      rw [Nat.min_eq_right hcut, List.drop_of_length_le hlength,
        List.drop_of_length_le (hlength.trans hcut)]
  rw [hlimit, hdrop, rowsOfPage_eq]

end Dialect

/-! ## Searches -/

namespace Generator

variable {Row : Type} {g : Generator} {answer : Sql → List Row} {q : Request} {rows : List Row}

/-- The rows that the search finds in a database. -/
def foundRows? (g : Generator) (answer : Sql → List Row) (q : Request) : Option (List Row) :=
  (g.findStatement false).toOption.map fun find => answer (find.body.evaluate q.json)

/-- The rows that the search for a page finds in a database. -/
def foundPage? (g : Generator) (answer : Sql → List Row) (q : Request) (page : Page) :
    Option (List Row) := do
  let paged ← (g.findStatement true).toOption
  g.dialect.rowsOfWindow? answer (paged.body.evaluate (q.apply (.page page)).json)

/-- The search for a page restricts the search of everything to the page. -/
theorem foundPage?_eq (h : g.foundRows? answer q = some rows) (page : Page) :
    g.foundPage? answer q page = some ((g.dialect.pageWindow page).rows rows) := by
  obtain ⟨find, hfind, rfl⟩ := Option.map_eq_some_iff.mp h
  obtain ⟨query, hquery, hbody⟩ := bind_eq_ok.mp (toOption_eq_some_iff.mp hfind)
  cases hbody
  obtain ⟨slots, hslots⟩ := exists_slots_of_findQuery hquery
  -- The query does not look at the page, so it comes to the same with and without one.
  have hall := yields_findQuery_led (q := q) hslots hquery
  have hpage := yields_findQuery_led (q := q.apply (.page page)) hslots hquery
  have hpaged : (g.findStatement true).toOption = some
      { g.statement .select .findByPager (g.dialect.window query) with
        resultMap? := some StatementName.resultMap.id } := by
    rw [findStatement, hquery]
    rfl
  rw [foundPage?, hpaged, Option.bind_eq_bind, Option.bind_some, Dialect.rowsOfWindow?]
  change Option.map _ (g.dialect.readWindow? ((g.dialect.window query).evaluate _)) =
    some ((g.dialect.pageWindow page).rows (answer (query.evaluate q.json)))
  rw [(hpage.window g.dialect).evaluate, hall.evaluate]
  change Option.map _ (g.dialect.readWindow? (g.dialect.windowFront ++ _ ++
    g.dialect.windowBack (.int page.offset) (.int page.size))) = _
  rw [Dialect.readWindow?_window]
  rfl

/-- Whatever a search finds, the search for a page finds those of its rows whose index, divided
by the size, is the number of the page.  So the first pages together are the first rows, and two
databases that find the same rows find the same pages. -/
theorem pages_tile (hrows : g.foundRows? answer q = some rows)
    (hlength : rows.length < UInt64.size) :
    (∀ page size, g.foundPage? answer q (.number page size) =
        some (rowsOfPage rows page size)) ∧
      (∀ pages size, ((List.range pages).mapM fun page =>
        g.foundPage? answer q (.number page size)).map List.flatten =
          some (rows.take (pages * size))) ∧
      ∀ (other : Generator) (answer' : Sql → List Row), other.foundRows? answer' q = some rows →
        ∀ page size, other.foundPage? answer' q (.number page size) =
          g.foundPage? answer q (.number page size) := by
  have hpage {found : Generator} {answer' : Sql → List Row}
      (hfound : found.foundRows? answer' q = some rows) (page size : Nat) :
      found.foundPage? answer' q (.number page size) = some (rowsOfPage rows page size) := by
    rw [foundPage?_eq hfound, Dialect.rows_pageWindow _ page size hlength]
  refine ⟨hpage hrows, fun pages size => ?_, fun other answer' hother page size => ?_⟩
  · simp only [hpage hrows]
    rw [← flatMap_rowsOfPage, ← Option.pure_def, List.mapM_pure]
    simp [List.flatMap]
  · rw [hpage hother, hpage hrows]

/-- Five users in pages of two, by row numbers; an offset that is cut off is behind the last. -/
theorem pages_tile_users :
    let byRowNumbers : Generator := { users with dialect := .oracle }
    let answer : Sql → List Nat := fun _ => [10, 11, 12, 13, 14]
    byRowNumbers.foundRows? answer usersRequest = some [10, 11, 12, 13, 14] ∧
      [10, 11, 12, 13, 14].length < UInt64.size ∧
      byRowNumbers.foundPage? answer usersRequest (.number 1 2) = some [12, 13] ∧
      byRowNumbers.foundPage? answer usersRequest (.number 9223372036854775808 4) = some [] := by
  intro byRowNumbers answer
  obtain ⟨find, hfind⟩ := isOk_iff.mp (by decide : (byRowNumbers.findStatement false).isOk = true)
  have hrows : byRowNumbers.foundRows? answer usersRequest = some [10, 11, 12, 13, 14] := by
    rw [foundRows?, hfind]
    rfl
  have hlength : [10, 11, 12, 13, 14].length < UInt64.size := by decide
  obtain ⟨hpage, _, _⟩ := pages_tile hrows hlength
  exact ⟨hrows, hlength, hpage 1 2, hpage 9223372036854775808 4⟩

end Generator

end EntityMapping
