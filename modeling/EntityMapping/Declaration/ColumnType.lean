import EntityMapping.Declaration.Grammar
import EntityMapping.Entity.JdbcType

/-!
# Column types of fields

The column type that follows from the type of a field.  References and optional values count
as what they hold, and a list of bytes is binary.

Definitions:

- `TypeShape.columnType`, `columnTypeOf`: the column type of a type, and that of its tokens.
-/

namespace EntityMapping.Declaration

namespace TypeShape

/-- The last name of a path. -/
def last? : TypeShape → Option String
  | named last => some last
  | applied last _ => some last
  | _ => none

/-- The names of types with the column type of each. -/
def columnTypes : List (String × JdbcType) :=
  [("String", .varchar), ("str", .varchar), ("char", .char), ("i8", .tinyint),
    ("i16", .smallint), ("u8", .smallint), ("i32", .integer), ("u16", .integer),
    ("i64", .bigint), ("u32", .bigint), ("u64", .bigint), ("isize", .bigint), ("usize", .bigint),
    ("f32", .real), ("f64", .double), ("bool", .boolean), ("Decimal", .decimal),
    ("BigDecimal", .decimal), ("NaiveDate", .date), ("Date", .date), ("NaiveTime", .time),
    ("Time", .time), ("NaiveDateTime", .timestamp), ("PrimitiveDateTime", .timestamp),
    ("DateTime", .timestampWithTimezone), ("OffsetDateTime", .timestampWithTimezone)]

/-- The column type of a type by its last name. -/
def columnTypeNamed (last : String) : JdbcType :=
  ((columnTypes.find? (·.1 == last)).map (·.2)).getD .other

/-- The column type of a type. -/
def columnType : TypeShape → JdbcType
  | reference target => target.columnType
  | applied last argument =>
    if last = "Option" then argument.columnType
    else if last = "Vec" then
      if argument.last? = some "u8" then .varbinary else .array
    else columnTypeNamed last
  | named last => columnTypeNamed last
  | other => .other

end TypeShape

/-- The column type that follows from the tokens of a type. -/
def columnTypeOf (type : Tokens) : JdbcType := (typeOf type).1.columnType

end EntityMapping.Declaration
