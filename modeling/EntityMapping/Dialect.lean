import EntityMapping.Entity.KeyStrategy
import EntityMapping.Params.Parameter
import EntityMapping.Template.Basic

/-!
# Dialects

The databases for which statements are made, and what differs between them: quotes, the way
a key is generated, the SQL that reads a generated key or the next value of a sequence, and the
clause that restricts a query to one page.

Main results:

- `Dialect.nativeStrategy_supported`: the strategy that a dialect prefers is one it supports.
-/

namespace EntityMapping

/-- A database dialect. -/
inductive Dialect
  | postgres
  | mysql
  | h2
  | oracle
deriving DecidableEq, Repr

namespace Dialect

/-- The name in lower case. -/
def name : Dialect → String
  | postgres => "postgres"
  | mysql => "mysql"
  | h2 => "h2"
  | oracle => "oracle"

/-- The dialect with a name or one of its other names, in any letter case. -/
def ofText (text : String) : Except MappingError Dialect :=
  let wanted := Text.lower text
  if wanted ∈ ["postgres", "postgresql", "pg"] then .ok postgres
  else if wanted ∈ ["mysql", "mariadb"] then .ok mysql
  else if wanted = "h2" then .ok h2
  else if wanted ∈ ["oracle", "ora"] then .ok oracle
  else .error (.unknownDialect text)

/-- An identifier between the quotes of the dialect. -/
def quote (d : Dialect) (identifier : String) : String :=
  match d with
  | mysql => "`" ++ identifier ++ "`"
  | _ => "\"" ++ identifier ++ "\""

/-- The function that puts a text into lower case. -/
def lowercase (_ : Dialect) : String := "lower"

/-- The strategy that stands for `auto`. -/
def nativeStrategy : Dialect → KeyStrategy
  | mysql => .identity
  | _ => .sequence

/-- The name of a table without its schema and without double quotes. -/
def bareTable (table : String) : String :=
  String.ofList ((table.toList.reverse.takeWhile (· != '.')).reverse.filter (· != '"'))

/-- SQL that reads the key that the last insertion into a table made. -/
def identitySelect (d : Dialect) (table column : String) : Except MappingError String :=
  match d with
  | postgres => .ok ("select currval('" ++ bareTable table ++ "_" ++ column ++ "_seq')")
  | mysql => .ok "select last_insert_id()"
  | h2 => .ok "call identity()"
  | oracle => .error (.dialectLacks d.name "identity columns")

/-- SQL that draws the next value of a sequence. -/
def sequenceNext (d : Dialect) (sequence : String) : Except MappingError String :=
  match d with
  | postgres => .ok ("select nextval ('" ++ sequence ++ "')")
  | mysql => .error (.dialectLacks d.name "sequences")
  | h2 => .ok ("call next value for " ++ sequence)
  | oracle => .ok ("select " ++ sequence ++ ".nextval from dual")

/-- The strategy that a dialect prefers is one it supports. -/
theorem nativeStrategy_supported (d : Dialect) :
    (d.nativeStrategy = .identity ∧ ∀ table column, (d.identitySelect table column).isOk) ∨
      (d.nativeStrategy = .sequence ∧ ∀ sequence, (d.sequenceNext sequence).isOk) := by
  cases d <;> simp [nativeStrategy, identitySelect, sequenceNext, Except.isOk, Except.toBool]

/-! ## Page windows -/

/-- A query restricted to the page that the parameters give. -/
def window (d : Dialect) (query : Template) : Template :=
  let offset : Template := .value Parameter.offset.name none
  let size : Template := .value Parameter.pageSize.name none
  match d with
  | .postgres => query ++ .text " limit " ++ size ++ .text " offset " ++ offset
  | .h2 => query ++ .text " limit " ++ size ++ .text " offset " ++ offset
  | .mysql => query ++ .text " limit " ++ offset ++ .text ", " ++ size
  | .oracle =>
    .text "select * from ( select row_.*, rownum rownum_ from ( " ++ query ++
      .text " ) row_ where rownum " ++ .cdata "<=" ++ .text " " ++ offset ++ .text " + " ++ size ++
      .text " ) where rownum_ " ++ .cdata ">" ++ .text " " ++ offset

end Dialect

end EntityMapping
