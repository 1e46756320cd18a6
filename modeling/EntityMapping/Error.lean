/-!
# Errors

What can go wrong when entities are read and mapped, with the wording of each cause.  Every
cause but the last three is a fault of the configuration, to be mended in the metadata.

Definitions:

- `MappingError.message`: the wording of a cause.
- `MappingError.isConfiguration`: whether a cause is a fault of the configuration.
-/

namespace EntityMapping

/-- The cause of a failure. -/
inductive MappingError
  | missingExampleMarker (repository entity : String)
  | missingExampleCompanion (entity companion : String)
  | unsupportedStrategy (entity property strategy : String)
  | dialectLacks (dialect feature : String)
  | conditionArity (entity property comparison : String) (expected actual : Nat)
  | unknownEntity (typeName : String)
  | missingKey (entity : String)
  | unknownDialect (name : String)
  | invalidSettings (message : String)
  | parameters (message : String)
  | unsupported (message : String)
  | session (message : String)
deriving DecidableEq, Repr

namespace MappingError

/-- The wording of a cause. -/
def message : MappingError → String
  | missingExampleMarker repository entity =>
    "the repository " ++ repository ++
      " supports example queries, but could not find the example marker on the entity: " ++ entity
  | missingExampleCompanion entity companion =>
    "did you forget to generate " ++ companion ++ " for " ++ entity ++ "?"
  | unsupportedStrategy entity property strategy =>
    "unsupported generated value id strategy " ++ strategy ++ " on " ++ entity ++ "." ++ property
  | dialectLacks dialect feature => "dialect " ++ dialect ++ " does not support " ++ feature
  | conditionArity entity property comparison expected actual =>
    "condition with type " ++ comparison ++ " on " ++ entity ++ "." ++ property ++ " needs " ++
      toString expected ++ " arguments, but only found " ++ toString actual ++
      " properties in this condition"
  | unknownEntity typeName => "no persistent entity registered for type " ++ typeName
  | missingKey entity => "entity " ++ entity ++ " has no id property"
  | unknownDialect name => "unknown dialect: " ++ name
  | invalidSettings message => "invalid precompiler configuration: " ++ message
  | parameters message => "could not serialize statement parameters: " ++ message
  | unsupported message => message
  | session message => "session error: " ++ message

/-- Whether the cause lies in the configuration. -/
def isConfiguration : MappingError → Bool
  | parameters _ => false
  | unsupported _ => false
  | session _ => false
  | _ => true

end MappingError

end EntityMapping
