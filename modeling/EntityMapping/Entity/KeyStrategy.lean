import EntityMapping.Error
import EntityMapping.Text.LetterCase

/-!
# Key generation

How the database makes the key of a new row.

Definitions:

- `KeyStrategy`: where a generated key comes from.
- `KeyGeneration`, `SequenceGenerator`: how a key is generated, and a sequence under a name.
-/

namespace EntityMapping

/-- Where a generated key comes from. -/
inductive KeyStrategy
  | auto
  | identity
  | sequence
  | table
deriving DecidableEq, Repr

namespace KeyStrategy

/-- The name in lower case. -/
def name : KeyStrategy → String
  | auto => "auto"
  | identity => "identity"
  | sequence => "sequence"
  | table => "table"

/-- The strategy named in metadata, in any letter case. -/
def ofText (text : String) : Except MappingError KeyStrategy :=
  let wanted := Text.lower text
  if wanted = "auto" then .ok auto
  else if wanted = "identity" then .ok identity
  else if wanted = "sequence" then .ok sequence
  else if wanted = "table" then .ok table
  else .error (.invalidSettings ("unknown generation strategy: " ++ text))

end KeyStrategy

/-- The request to generate a key: its strategy and, perhaps, the name of a generator. -/
structure KeyGeneration where
  strategy : KeyStrategy
  generator? : Option String
deriving DecidableEq, Repr

/-- The name of the generator, unless it is empty. -/
def KeyGeneration.generatorName? (g : KeyGeneration) : Option String :=
  g.generator?.filter (· != "")

/-- A named generator with the database sequence behind it. -/
structure SequenceGenerator where
  name : String
  sequence : String
deriving DecidableEq, Repr

end EntityMapping
