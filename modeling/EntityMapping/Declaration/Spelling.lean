import EntityMapping.Declaration.Chain

/-!
# Spelling of builder chains

The tokens by which generated code spells a builder chain.

Definitions:

- `PropertyCall.tokens`, `EntityCall.tokens`: the call of a builder.
- `PropertyChain.tokens`, `EntityChain.tokens`: a whole chain.
-/

namespace EntityMapping.Declaration

/-! ## Expressions -/

/-- Tokens between round brackets. -/
def parenthesized (ts : Tokens) : Tokens := .opening .round :: ts ++ [.closing .round]

/-- Tokens between square brackets. -/
def bracketed (ts : Tokens) : Tokens := .opening .square :: ts ++ [.closing .square]

/-- Tokens between curly brackets. -/
def braced (ts : Tokens) : Tokens := .opening .curly :: ts ++ [.closing .curly]

/-- Sequences of tokens with commas between them. -/
def commaSeparated : List Tokens → Tokens
  | [] => []
  | [ts] => ts
  | ts :: rest => ts ++ .mark "," :: commaSeparated rest

/-- A path from the root. -/
def rooted (names : List String) : Tokens :=
  names.flatMap fun name => [.mark "::", .name name]

/-- A path of the mapper library. -/
def libraryPath (names : List String) : Tokens := rooted ("mapper_core" :: names)

/-- A call of a function. -/
def call (function : Tokens) (arguments : List Tokens) : Tokens :=
  function ++ parenthesized (commaSeparated arguments)

/-- A call of a method on what stands before. -/
def method (name : String) (arguments : List Tokens) : Tokens :=
  .mark "." :: call [.name name] arguments

/-- The full name of a type. -/
def typeNameOf (type : Tokens) : Tokens :=
  call (rooted ["std", "any", "type_name"] ++ .mark "::" :: .mark "<" :: type ++ [.mark ">"]) []

/-- An invocation of a built-in with arguments. -/
def builtin (name : String) (arguments : List Tokens) : Tokens :=
  call [.name name, .mark "!"] arguments

@[simp]
theorem commaSeparated_singleton (ts : Tokens) : commaSeparated [ts] = ts := rfl

/-! ## Properties -/

/-- A column. -/
def columnTokens (c : Column) : Tokens :=
  let type := libraryPath ["JdbcType", columnTypeVariant c.type]
  if c.name.quoted then
    call (libraryPath ["Column", "with_identifier"])
      [call (libraryPath ["Identifier", "quoted"]) [[.text c.name.text]], type]
  else call (libraryPath ["Column", "new"]) [[.text c.name.text], type]

/-- A sequence generator. -/
def generatorTokens (g : SequenceGenerator) : Tokens :=
  call (libraryPath ["SequenceGenerator", "new"]) [[.text g.name], [.text g.sequence]]

/-- A key generation. -/
def generationTokens (g : KeyGeneration) : Tokens :=
  call (libraryPath ["GeneratedValue", "new"])
      [libraryPath ["GenerationType", strategyVariant g.strategy]] ++
    match g.generator? with
    | some name => method "generator" [[.text name]]
    | none => []

/-- A condition. -/
def conditionTokens (c : Condition) : Tokens :=
  call (libraryPath ["ConditionSpec", "new"])
      [libraryPath ["PartType", comparisonVariant c.comparison]] ++
    method "ignore_case" [libraryPath ["IgnoreCaseType", caseRuleVariant c.caseRule]] ++
    (match c.column? with
      | some column => method "column" [[.text column]]
      | none => []) ++
    if c.operands.isEmpty then []
    else method "properties" [bracketed (commaSeparated (c.operands.map fun s => [.text s]))]

/-- The name of the function that makes a property of a role. -/
def roleFunction : Role → String
  | .basic => "basic"
  | .id => "id"
  | .embeddedId => "embedded_id"
  | .embedded => "embedded"

/-- A call that adds to a property. -/
def PropertyCall.tokens : PropertyCall → Tokens
  | generated g => method "generated" [generationTokens g]
  | sequenceGenerator g => method "sequence_generator" [generatorTokens g]
  | condition c => method "condition" [conditionTokens c]

/-- The chain of a property.  Only a property that is not embedded names its column. -/
def PropertyChain.tokens (c : PropertyChain) : Tokens :=
  let column := if c.role.isEmbedded then [] else [columnTokens c.column]
  call (libraryPath ["PersistentProperty", roleFunction c.role])
      ([[.text c.name], typeNameOf c.type] ++ column) ++
    c.calls.flatMap PropertyCall.tokens

/-! ## Entities -/

/-- A call that adds to an entity. -/
def EntityCall.tokens : EntityCall → Tokens
  | schema name => method "schema" [[.text name]]
  | quotedTable => method "quoted_table" []
  | sequenceGenerator g => method "sequence_generator" [generatorTokens g]
  | property p => method "property" [p.tokens]
  | idClass path => method "id_class" [typeNameOf path]
  | isExample => method "example" []
  | exampleCompanion name =>
    method "example_companion"
      [builtin "concat" [builtin "module_path" [], [.text "::"], [.text name]]]
  | embeddable => method "embeddable" []

/-- The chain of an entity, from its builder to the built entity. -/
def EntityChain.tokens (c : EntityChain) : Tokens :=
  call (libraryPath ["PersistentEntity", "builder"])
      [typeNameOf [.name "Self"], [.text c.table]] ++
    c.calls.flatMap EntityCall.tokens ++ method "build" []

end EntityMapping.Declaration
