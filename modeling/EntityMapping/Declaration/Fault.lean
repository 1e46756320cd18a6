import EntityMapping.Entity.Property
import EntityMapping.Text.Similarity

/-!
# Faults of declarations

What can be wrong with the attributes of a declaration, and the wording of each fault.  A
fault of a setting of the entity also tells its place.

Definitions:

- `Fault.message`: the wording of a fault.
- `Fault.located`: the wording together with the place.
-/

namespace EntityMapping.Declaration

/-- What is wrong with a declaration. -/
inductive Fault
  | valueOnEntity
  | chainedComparison
  | unknownSetting (name : String)
  | repeatedSetting (name : String)
  | wrongKind (kind setting : String)
  | wrongForm (form setting : String)
  | wrongValue (value setting : String)
  | wrongShape (found expected : String)
  | unknownArgument (expected : String)
  | missingValue
  | valueNotText
  | unexpectedValue
  | missingList
  | missingListAtEnd
  | unknownColumnType
  | unknownStrategy
  | unknownComparison
  | unknownCaseRule
  | missingGeneratorName
  | conflictingMarkers (later earlier : Role)
  | columnOnEmbedded
  | conditionOnEmbedded
  | generatedWithoutId
  | severalEmbeddedIds
  | embeddedIdWithId
  | keyClassWithoutIds
deriving DecidableEq, Repr

/-- The marker of a role. -/
def marker : Role → String
  | .basic => ""
  | .id => "#[id]"
  | .embeddedId => "#[embedded_id]"
  | .embedded => "#[embedded]"

namespace Fault

/-- The names of the settings of an entity, as messages list them. -/
def settingNames : List String :=
  ["embeddable", "example", "id_class", "quoted", "schema", "table"]

/-- Names in backquotes, separated by commas. -/
def listed (names : List String) : String :=
  String.intercalate ", " (names.map fun name => "`" ++ name ++ "`")

/-- What may help with an unknown name of a setting: the setting it may have been meant for,
or all of them. -/
def hint (name : String) : String :=
  match Text.closest? name settingNames with
  | some setting => "Did you mean `" ++ setting ++ "`?"
  | none => "Available values: " ++ listed settingNames

/-- The wording of a fault. -/
def message : Fault → String
  | valueOnEntity => "Name-value arguments are not supported. Use #[entity(...)]"
  | chainedComparison => "comparison operators cannot be chained"
  | unknownSetting name => "Unknown field: `" ++ name ++ "`. " ++ hint name
  | repeatedSetting name => "Duplicate field `" ++ name ++ "`"
  | wrongKind kind _ => "Unexpected type `" ++ kind ++ "`"
  | wrongForm form _ => "Unexpected meta-item format `" ++ form ++ "`"
  | wrongValue value _ => "Unknown value: `" ++ value ++ "`"
  | wrongShape found expected =>
    "Unsupported shape `" ++ found ++ "`. Expected " ++ expected ++ "."
  | unknownArgument expected => "expected " ++ expected
  | missingValue => "expected `=`"
  | valueNotText => "expected string literal"
  | unexpectedValue => "expected `,`"
  | missingList => "expected parentheses"
  | missingListAtEnd => "unexpected end of input, expected parentheses"
  | unknownColumnType => "unknown JDBC type"
  | unknownStrategy => "expected one of " ++ listed ["auto", "identity", "sequence", "table"]
  | unknownComparison => "unknown condition kind"
  | unknownCaseRule => "expected one of " ++ listed ["never", "always", "when_possible"]
  | missingGeneratorName => "#[sequence_generator] requires `name = \"...\"`"
  | conflictingMarkers later earlier =>
    marker later ++ " conflicts with " ++ marker earlier
  | columnOnEmbedded => "#[column] is not allowed on embedded fields"
  | conditionOnEmbedded => "#[condition] is not allowed on embedded fields"
  | generatedWithoutId => "#[generated] requires #[id]"
  | severalEmbeddedIds => "at most one #[embedded_id] field is allowed"
  | embeddedIdWithId => "#[embedded_id] cannot be combined with #[id]"
  | keyClassWithoutIds => "id_class requires at least two #[id] fields"

/-- The setting that a fault is about. -/
def place? : Fault → Option String
  | wrongKind _ setting => some setting
  | wrongForm _ setting => some setting
  | wrongValue _ setting => some setting
  | _ => none

/-- The wording of a fault with its place. -/
def located (f : Fault) : String :=
  match f.place? with
  | some setting => f.message ++ " at " ++ setting
  | none => f.message

end Fault

/-- A result with all faults that were found, or a value. -/
abbrev Checked (α : Type) := Except (List Fault) α

end EntityMapping.Declaration
