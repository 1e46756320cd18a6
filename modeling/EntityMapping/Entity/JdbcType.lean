import EntityMapping.Error
import EntityMapping.Text.Blank
import EntityMapping.Text.LetterCase

/-!
# Column types

The column types of the JDBC standard with their names and codes.

Main results:

- `JdbcType.mem_all`: the list of types is complete.
- `JdbcType.find?_name`: looking for the name of a type finds it.
- `JdbcType.name_injective`: a name determines its type.
-/

namespace EntityMapping

/-- A JDBC column type. -/
inductive JdbcType
  | array
  | bigint
  | binary
  | bit
  | blob
  | boolean
  | char
  | clob
  | date
  | decimal
  | double
  | float
  | integer
  | longVarchar
  | nchar
  | numeric
  | nvarchar
  | other
  | real
  | smallint
  | time
  | timestamp
  | timestampWithTimezone
  | tinyint
  | varbinary
  | varchar
deriving DecidableEq, Repr

namespace JdbcType

/-- All types, by name. -/
def all : List JdbcType :=
  [array, bigint, binary, bit, blob, boolean, char, clob, date, decimal, double, float, integer,
    longVarchar, nchar, numeric, nvarchar, other, real, smallint, time, timestamp,
    timestampWithTimezone, tinyint, varbinary, varchar]

/-- The name that statements give as `jdbcType`. -/
def name : JdbcType → String
  | array => "ARRAY"
  | bigint => "BIGINT"
  | binary => "BINARY"
  | bit => "BIT"
  | blob => "BLOB"
  | boolean => "BOOLEAN"
  | char => "CHAR"
  | clob => "CLOB"
  | date => "DATE"
  | decimal => "DECIMAL"
  | double => "DOUBLE"
  | float => "FLOAT"
  | integer => "INTEGER"
  | longVarchar => "LONGVARCHAR"
  | nchar => "NCHAR"
  | numeric => "NUMERIC"
  | nvarchar => "NVARCHAR"
  | other => "OTHER"
  | real => "REAL"
  | smallint => "SMALLINT"
  | time => "TIME"
  | timestamp => "TIMESTAMP"
  | timestampWithTimezone => "TIMESTAMP_WITH_TIMEZONE"
  | tinyint => "TINYINT"
  | varbinary => "VARBINARY"
  | varchar => "VARCHAR"

/-- The code of the standard. -/
def code : JdbcType → Int
  | array => 2003
  | bigint => -5
  | binary => -2
  | bit => -7
  | blob => 2004
  | boolean => 16
  | char => 1
  | clob => 2005
  | date => 91
  | decimal => 3
  | double => 8
  | float => 6
  | integer => 4
  | longVarchar => -1
  | nchar => -15
  | numeric => 2
  | nvarchar => -9
  | other => 1111
  | real => 7
  | smallint => 5
  | time => 92
  | timestamp => 93
  | timestampWithTimezone => 2014
  | tinyint => -6
  | varbinary => -3
  | varchar => 12

/-- The type named in metadata: in any letter case, with spaces for underscores. -/
def ofText (text : String) : Except MappingError JdbcType :=
  match all.find? (·.name == Text.underscored [' '] (Text.upper text)) with
  | some type => .ok type
  | none => .error (.invalidSettings ("unknown jdbc type: " ++ text))

/-- The list has every type. -/
theorem mem_all (t : JdbcType) : t ∈ all := by
  cases t <;> simp [all]

/-- A type is found by its name. -/
theorem find?_name (t : JdbcType) : all.find? (·.name == t.name) = some t := by
  cases t <;> decide

/-- Types have different names. -/
theorem name_injective {s t : JdbcType} (h : s.name = t.name) : s = t :=
  Option.some.inj ((find?_name s).symm.trans (h ▸ find?_name t))

end JdbcType

end EntityMapping
