import EntityMapping.Entity.Condition
import EntityMapping.Entity.JdbcType
import EntityMapping.Entity.KeyStrategy

/-!
# Vocabulary of declarations

The words by which attributes name column types, comparisons, letter case rules and
strategies, and the variant that stands for each in generated code.

Definitions:

- `columnType?`, `comparison?`, `caseRule?`, `strategy?`: what a word names.
- `columnTypeVariant`, `comparisonVariant`, `caseRuleVariant`, `strategyVariant`: variants.
-/

namespace EntityMapping.Declaration

/-- What a table has under a word. -/
def lookup (table : List (String × α)) (word : String) : Option α :=
  (table.find? (·.1 == word)).map (·.2)

/-! ## Column types -/

/-- The column types by name. -/
def columnTypeWords : List (String × JdbcType) :=
  [("ARRAY", .array), ("BIGINT", .bigint), ("BINARY", .binary), ("BIT", .bit), ("BLOB", .blob),
    ("BOOLEAN", .boolean), ("CHAR", .char), ("CLOB", .clob), ("DATE", .date),
    ("DECIMAL", .decimal), ("DOUBLE", .double), ("FLOAT", .float), ("INTEGER", .integer),
    ("LONGVARCHAR", .longVarchar), ("NCHAR", .nchar), ("NUMERIC", .numeric),
    ("NVARCHAR", .nvarchar), ("OTHER", .other), ("REAL", .real), ("SMALLINT", .smallint),
    ("TIME", .time), ("TIMESTAMP", .timestamp),
    ("TIMESTAMP_WITH_TIMEZONE", .timestampWithTimezone), ("TINYINT", .tinyint),
    ("VARBINARY", .varbinary), ("VARCHAR", .varchar)]

/-- The column type that an attribute names: trimmed, in any letter case, with spaces or
dashes for underscores. -/
def columnType? (text : String) : Option JdbcType :=
  lookup columnTypeWords (Text.underscored [' ', '-'] (Text.upper (Text.trim text)))

/-- The variant of a column type. -/
def columnTypeVariant : JdbcType → String
  | .array => "Array"
  | .bigint => "Bigint"
  | .binary => "Binary"
  | .bit => "Bit"
  | .blob => "Blob"
  | .boolean => "Boolean"
  | .char => "Char"
  | .clob => "Clob"
  | .date => "Date"
  | .decimal => "Decimal"
  | .double => "Double"
  | .float => "Float"
  | .integer => "Integer"
  | .longVarchar => "LongVarchar"
  | .nchar => "Nchar"
  | .numeric => "Numeric"
  | .nvarchar => "Nvarchar"
  | .other => "Other"
  | .real => "Real"
  | .smallint => "Smallint"
  | .time => "Time"
  | .timestamp => "Timestamp"
  | .timestampWithTimezone => "TimestampWithTimezone"
  | .tinyint => "Tinyint"
  | .varbinary => "Varbinary"
  | .varchar => "Varchar"

/-! ## Comparisons -/

/-- The short names of comparisons. -/
def comparisonAliases : List (String × Comparison) :=
  [("EQ", .simpleProperty), ("NE", .negatingSimpleProperty), ("LT", .lessThan),
    ("LTE", .lessThanEqual), ("GT", .greaterThan), ("GTE", .greaterThanEqual)]

/-- The comparisons by name. -/
def comparisonWords : List (String × Comparison) :=
  [("SIMPLE_PROPERTY", .simpleProperty), ("NEGATING_SIMPLE_PROPERTY", .negatingSimpleProperty),
    ("LESS_THAN", .lessThan), ("LESS_THAN_EQUAL", .lessThanEqual), ("GREATER_THAN", .greaterThan),
    ("GREATER_THAN_EQUAL", .greaterThanEqual), ("BEFORE", .before), ("AFTER", .after),
    ("BETWEEN", .between), ("LIKE", .like), ("NOT_LIKE", .notLike),
    ("STARTING_WITH", .startingWith), ("ENDING_WITH", .endingWith), ("CONTAINING", .containing),
    ("NOT_CONTAINING", .notContaining), ("IN", .isIn), ("NOT_IN", .notIn), ("IS_NULL", .isNull),
    ("IS_NOT_NULL", .isNotNull), ("TRUE", .isTrue), ("FALSE", .isFalse)]

/-- The comparison that an attribute names: trimmed, in any letter case, with spaces or
dashes for underscores, by its name or its short name. -/
def comparison? (text : String) : Option Comparison :=
  let word := Text.underscored [' ', '-'] (Text.upper (Text.trim text))
  (lookup comparisonAliases word).or (lookup comparisonWords word)

/-- The variant of a comparison. -/
def comparisonVariant : Comparison → String
  | .simpleProperty => "SimpleProperty"
  | .negatingSimpleProperty => "NegatingSimpleProperty"
  | .lessThan => "LessThan"
  | .lessThanEqual => "LessThanEqual"
  | .greaterThan => "GreaterThan"
  | .greaterThanEqual => "GreaterThanEqual"
  | .before => "Before"
  | .after => "After"
  | .between => "Between"
  | .like => "Like"
  | .notLike => "NotLike"
  | .startingWith => "StartingWith"
  | .endingWith => "EndingWith"
  | .containing => "Containing"
  | .notContaining => "NotContaining"
  | .isIn => "In"
  | .notIn => "NotIn"
  | .isNull => "IsNull"
  | .isNotNull => "IsNotNull"
  | .isTrue => "True"
  | .isFalse => "False"

/-! ## Letter case rules -/

/-- The letter case rule that an attribute names: trimmed, in any letter case, with dashes or
spaces for underscores. -/
def caseRule? (text : String) : Option CaseRule :=
  lookup [("never", .never), ("always", .always), ("when_possible", .whenPossible)]
    (Text.underscored ['-', ' '] (Text.lower (Text.trim text)))

/-- The variant of a letter case rule. -/
def caseRuleVariant : CaseRule → String
  | .never => "Never"
  | .always => "Always"
  | .whenPossible => "WhenPossible"

/-! ## Strategies -/

/-- The strategy that an attribute names: trimmed and in any letter case. -/
def strategy? (text : String) : Option KeyStrategy :=
  lookup [("auto", .auto), ("identity", .identity), ("sequence", .sequence), ("table", .table)]
    (Text.lower (Text.trim text))

/-- The variant of a strategy. -/
def strategyVariant : KeyStrategy → String
  | .auto => "Auto"
  | .identity => "Identity"
  | .sequence => "Sequence"
  | .table => "Table"

end EntityMapping.Declaration
