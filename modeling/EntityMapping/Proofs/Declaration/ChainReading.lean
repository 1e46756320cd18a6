import EntityMapping.Declaration.Spelling
import EntityMapping.Proofs.Declaration.Nesting

/-!
# Builder chains read from their spelling

Generated code spells an entity as a builder followed by calls of methods.  A reader takes such
code for what it says: a constructor starts a value, and each method that is called on it adds
to the value.  Types are read up to the angle bracket that closes them.

Main results:

- `Steps.run`, `Calls.methods`: a loop takes the steps, and the calls, that are spelled out.
- `property_tokens`: the chain of a property reads as that property.
- `entityChain_tokens`: the chain of an entity reads as that entity, but for the columns of
  embedded properties, which are not spelled.
- `EntityChain.build_spelled`: those columns do not matter to the entity that is built.
-/

namespace EntityMapping.Declaration

/-- A reader of tokens, which takes some from the front. -/
abbrev Reader := StateT Tokens Option

namespace Reader

variable {α β : Type}

@[simp]
theorem pure_apply (a : α) (ts : Tokens) : (pure a : Reader α) ts = some (a, ts) := rfl

@[simp]
theorem bind_apply (r : Reader α) (next : α → Reader β) (ts : Tokens) :
    (r >>= next) ts = (r ts).bind fun p => next p.1 p.2 := rfl

@[simp]
theorem map_apply (f : α → β) (r : Reader α) (ts : Tokens) :
    (f <$> r) ts = (r ts).map fun p => (f p.1, p.2) := by
  rw [map_eq_pure_bind, bind_apply, Option.map_eq_bind]
  rfl

/-! ## Tokens -/

/-- Take a token that must stand there. -/
def expect (t : Token) : Reader Unit
  | u :: rest => if u = t then some ((), rest) else none
  | [] => none

/-- Take tokens that must stand there. -/
def expectAll : Tokens → Reader Unit
  | [] => pure ()
  | t :: ts => do
    expect t
    expectAll ts

/-- Take a name. -/
def name : Reader String
  | .name s :: rest => some (s, rest)
  | _ => none

/-- Take a text. -/
def text : Reader String
  | .text s :: rest => some (s, rest)
  | _ => none

/-- Take texts with commas between them. -/
def texts : Reader (List String)
  | .text s :: t :: rest =>
    if t = .mark "," then (texts rest).map fun p => (s :: p.1, p.2) else some ([s], t :: rest)
  | ts => some ([], ts)

/-- Take brackets and what stands between them. -/
def within (b : Bracket) (r : Reader α) : Reader α := do
  expect (.opening b)
  let a ← r
  expect (.closing b)
  return a

@[simp]
theorem expect_cons (t : Token) (rest : Tokens) : expect t (t :: rest) = some ((), rest) := by
  simp [expect]

@[simp]
theorem name_cons (s : String) (rest : Tokens) : name (.name s :: rest) = some (s, rest) := rfl

@[simp]
theorem text_cons (s : String) (rest : Tokens) : text (.text s :: rest) = some (s, rest) := rfl

@[simp]
theorem expectAll_append (ts rest : Tokens) : expectAll ts (ts ++ rest) = some ((), rest) := by
  induction ts with
  | nil => rfl
  | cons t ts ih => simpa [expectAll] using ih

@[simp]
theorem texts_append (ss : List String) (b : Bracket) (rest : Tokens) :
    texts (commaSeparated (ss.map fun s => [.text s]) ++ .closing b :: rest) =
      some (ss, .closing b :: rest) := by
  induction ss with
  | nil => rfl
  | cons s ss ih =>
    cases ss with
    | nil => simp [texts]
    | cons s' ss => simpa [commaSeparated, texts] using ih

@[simp]
theorem within_cons (b : Bracket) (r : Reader α) (rest : Tokens) :
    within b r (.opening b :: rest) = (r rest).bind fun p =>
      (expect (.closing b) p.2).map fun q => (p.1, q.2) := by
  simp [within]

/-! ## Paths and types -/

/-- Take a path of the library into a known scope. -/
def member (scope : String) : Reader String := do
  expectAll (libraryPath [scope])
  expect (.mark "::")
  name

/-- Whether two words are the same letters, in any letter case and with any underscores. -/
def sameLetters (a b : String) : Bool := letters a == letters b
where
  letters (s : String) : List Char := (s.toList.filter (· != '_')).map Char.toLower

/-- Take a variant of an enumeration of the library, which goes by the name of its value. -/
def variant (scope : String) (values : List α) (nameOf : α → String) : Reader α := fun ts => do
  let (s, rest) ← member scope ts
  let a ← values.find? fun a => sameLetters (nameOf a) s
  return (a, rest)

/-- Take the type whose full name is asked for. -/
def typeName : Reader Tokens := do
  expectAll (rooted ["std", "any", "type_name"])
  expectAll [.mark "::", .mark "<"]
  let type ← upToAngle ⟨0, 0, false⟩
  within .round (pure ())
  return type

@[simp]
theorem member_libraryPath (scope s : String) (rest : Tokens) :
    member scope (libraryPath [scope, s] ++ rest) = some (s, rest) := by
  have split : libraryPath [scope, s] ++ rest =
      libraryPath [scope] ++ .mark "::" :: .name s :: rest := by simp [libraryPath, rooted]
  simp [member, split]

/-- A variant of a library type is read back from its path. -/
theorem variant_libraryPath {scope s : String} {values : List α} {nameOf : α → String} {a : α}
    (h : values.find? (fun a => sameLetters (nameOf a) s) = some a) (rest : Tokens) :
    variant scope values nameOf (libraryPath [scope, s] ++ rest) = some (a, rest) := by
  simp [variant, h]

@[simp]
theorem call_append (function : Tokens) (arguments : List Tokens) (rest : Tokens) :
    call function arguments ++ rest =
      function ++ .opening .round :: (commaSeparated arguments ++ .closing .round :: rest) := by
  simp [call, parenthesized]

@[simp]
theorem typeName_append {type : Tokens} (h : Level true type) (rest : Tokens) :
    typeName (typeNameOf type ++ rest) = some (type, rest) := by
  have head := expectAll_append [.mark "::", .mark "<"]
  simp_all [typeName, typeNameOf, commaSeparated, upToAngle_append h]

/-! ## Repetition -/

/-- As long as a known token stands there, take it and a step, at most `fuel` times. -/
def whileNextWithin (t : Token) (step : α → Reader α) : Nat → α → Reader α
  | 0, a => pure a
  | fuel + 1, a => fun ts =>
    match ts with
    | u :: rest =>
      if u = t then (step a >>= whileNextWithin t step fuel) rest else some (a, u :: rest)
    | [] => some (a, [])

/-- As long as a known token stands there, take it and a step. -/
def whileNext (t : Token) (step : α → Reader α) (a : α) : Reader α := fun ts =>
  whileNextWithin t step ts.length a ts

/-- The tokens are steps from one value to another, each behind a known token. -/
inductive Steps (t : Token) (step : α → Reader α) : α → Tokens → α → Prop
  | nil (a : α) : Steps t step a [] a
  | cons {a b c : α} {xs ys : Tokens} (one : ∀ rest, step a (xs ++ rest) = some (b, rest))
      (more : Steps t step b ys c) : Steps t step a (t :: xs ++ ys) c

variable {t : Token} {step : α → Reader α} {a b c : α} {xs ys : Tokens}

/-- Steps that follow each other are one sequence of steps. -/
theorem Steps.append (hx : Steps t step a xs b) (hy : Steps t step b ys c) :
    Steps t step a (xs ++ ys) c := by
  induction hx with
  | nil => exact hy
  | cons one _ ih => simpa using Steps.cons one (ih hy)

/-- A step for each of several things, where a value is known by the things taken so far. -/
theorem Steps.flatMap {γ : Type} {tokens : γ → Tokens} {xs : List γ} (value : List γ → α)
    (h : ∀ before, ∀ x ∈ xs, Steps t step (value before) (tokens x) (value (before ++ [x])))
    (before : List γ) :
    Steps t step (value before) (xs.flatMap tokens) (value (before ++ xs)) := by
  induction xs generalizing before with
  | nil => simpa using Steps.nil (value before)
  | cons x rest ih =>
    have first := h before x (by simp)
    have others := ih (fun before y hy => h before y (by simp [hy])) (before ++ [x])
    simpa using first.append others

/-- A loop with enough fuel takes all the steps and stops behind them. -/
theorem Steps.runWithin (h : Steps t step a xs b) {fuel : Nat} (enough : xs.length ≤ fuel)
    {rest : Tokens} (stop : rest.head? ≠ some t) :
    whileNextWithin t step fuel a (xs ++ rest) = some (b, rest) := by
  induction h generalizing fuel with
  | nil a =>
    cases fuel with
    | zero => rfl
    | succ fuel => cases rest <;> simp_all [whileNextWithin]
  | @cons a b c xs ys one more ih =>
    obtain ⟨fuel, rfl⟩ : ∃ n, fuel = n + 1 := ⟨fuel - 1, by simp at enough; omega⟩
    have enough' : ys.length ≤ fuel := by simp at enough; omega
    simp [whileNextWithin, one, ih enough']

/-- The loop takes the steps and stops behind them. -/
theorem Steps.run (h : Steps t step a xs b) {rest : Tokens} (stop : rest.head? ≠ some t) :
    whileNext t step a (xs ++ rest) = some (b, rest) :=
  h.runWithin (by simp) stop

/-! ## Methods -/

/-- Take the call of a method on a value. -/
def method (onCall : α → String → Reader α) (a : α) : Reader α := do
  let s ← name
  within .round (onCall a s)

/-- Take all calls of methods, one on the outcome of the other. -/
def methods (onCall : α → String → Reader α) (a : α) : Reader α :=
  whileNext (.mark ".") (method onCall) a

/-- The tokens are calls of methods from one value to another. -/
abbrev Calls (onCall : α → String → Reader α) : α → Tokens → α → Prop :=
  Steps (.mark ".") (method onCall)

variable {onCall : α → String → Reader α}

/-- A call that is read back is a sequence of calls. -/
theorem Calls.single {s : String} {arguments : List Tokens}
    (h : ∀ rest, onCall a s (commaSeparated arguments ++ .closing .round :: rest) =
      some (b, .closing .round :: rest)) :
    Calls onCall a (Declaration.method s arguments) b := by
  have one (rest : Tokens) :
      method onCall a (call [.name s] arguments ++ rest) = some (b, rest) := by
    simp [method, h]
  simpa [Declaration.method] using Steps.cons one (.nil b)

/-- Methods are taken up to the bracket that closes their group. -/
theorem Calls.methods (h : Calls onCall a xs b) (bracket : Bracket) (rest : Tokens) :
    methods onCall a (xs ++ .closing bracket :: rest) = some (b, .closing bracket :: rest) :=
  Steps.run h (by simp)

/-! ## Values -/

/-- Take a column type. -/
def columnType : Reader JdbcType := variant "JdbcType" JdbcType.all JdbcType.name

/-- Take a comparison. -/
def comparison : Reader Comparison := variant "PartType" Comparison.all Comparison.name

/-- Take a strategy. -/
def strategy : Reader KeyStrategy :=
  variant "GenerationType" [.auto, .identity, .sequence, .table] KeyStrategy.name

/-- Take a letter case rule. -/
def caseRule : Reader CaseRule := do
  match ← member "IgnoreCaseType" with
  | "Never" => return .never
  | "Always" => return .always
  | "WhenPossible" => return .whenPossible
  | _ => failure

/-- Take an identifier. -/
def identifier : Reader Identifier := do
  match ← member "Identifier" with
  | "new" => return .plain (← within .round text)
  | "quoted" => return ⟨← within .round text, true⟩
  | _ => failure

/-- Take a column, which is made from a text or from an identifier. -/
def column : Reader Column := do
  match ← member "Column" with
  | "new" => within .round (of (return .plain (← text)))
  | "with_identifier" => within .round (of identifier)
  | _ => failure
where
  of (identifier : Reader Identifier) : Reader Column := do
    let i ← identifier
    expect (.mark ",")
    return ⟨i, ← columnType⟩

/-- Take a sequence generator. -/
def generator : Reader SequenceGenerator := do
  expectAll (libraryPath ["SequenceGenerator", "new"])
  within .round do
    let s ← text
    expect (.mark ",")
    return ⟨s, ← text⟩

/-- Take a call on a key generation. -/
def onGeneration (g : KeyGeneration) : String → Reader KeyGeneration
  | "generator" => return { g with generator? := some (← text) }
  | _ => failure

/-- Take a key generation. -/
def generation : Reader KeyGeneration := do
  expectAll (libraryPath ["GeneratedValue", "new"])
  methods onGeneration ⟨← within .round strategy, none⟩

/-- Take a call on a condition. -/
def onCondition (c : Condition) : String → Reader Condition
  | "ignore_case" => return { c with caseRule := ← caseRule }
  | "column" => return { c with column? := some (← text) }
  | "properties" => return { c with operands := ← within .square texts }
  | _ => failure

/-- Take a condition. -/
def condition : Reader Condition := do
  expectAll (libraryPath ["ConditionSpec", "new"])
  methods onCondition (.plain (← within .round comparison))

@[simp]
theorem columnType_libraryPath (t : JdbcType) (rest : Tokens) :
    columnType (libraryPath ["JdbcType", columnTypeVariant t] ++ rest) = some (t, rest) :=
  variant_libraryPath (by cases t <;> decide) rest

@[simp]
theorem comparison_libraryPath (c : Comparison) (rest : Tokens) :
    comparison (libraryPath ["PartType", comparisonVariant c] ++ rest) = some (c, rest) :=
  variant_libraryPath (by cases c <;> decide) rest

@[simp]
theorem strategy_libraryPath (s : KeyStrategy) (rest : Tokens) :
    strategy (libraryPath ["GenerationType", strategyVariant s] ++ rest) = some (s, rest) :=
  variant_libraryPath (by cases s <;> decide) rest

@[simp]
theorem caseRule_libraryPath (r : CaseRule) (rest : Tokens) :
    caseRule (libraryPath ["IgnoreCaseType", caseRuleVariant r] ++ rest) = some (r, rest) := by
  cases r <;> simp [caseRule, caseRuleVariant]

@[simp]
theorem column_tokens (c : Column) (rest : Tokens) :
    column (columnTokens c ++ rest) = some (c, rest) := by
  obtain ⟨⟨s, quoted⟩, type⟩ := c
  cases quoted <;>
    simp [column, column.of, columnTokens, commaSeparated, identifier, Identifier.plain]

@[simp]
theorem generator_tokens (g : SequenceGenerator) (rest : Tokens) :
    generator (generatorTokens g ++ rest) = some (g, rest) := by
  simp [generator, generatorTokens, commaSeparated]

/-- A generation begins with its strategy, and the calls follow. -/
theorem generation_start (s : KeyStrategy) (ts : Tokens) :
    generation (call (libraryPath ["GeneratedValue", "new"])
      [libraryPath ["GenerationType", strategyVariant s]] ++ ts) =
        methods onGeneration ⟨s, none⟩ ts := by
  simp [generation]

@[simp]
theorem generation_tokens (g : KeyGeneration) (b : Bracket) (rest : Tokens) :
    generation (generationTokens g ++ .closing b :: rest) = some (g, .closing b :: rest) := by
  rw [generationTokens, List.append_assoc, generation_start]
  obtain ⟨strategy, generator?⟩ := g
  cases generator? with
  | none => exact Calls.methods (.nil _) b rest
  | some name =>
    exact Calls.methods (.single fun rest => by simp [onGeneration]) b rest

/-- A condition begins with its comparison, and the calls follow. -/
theorem condition_start (c : Comparison) (ts : Tokens) :
    condition (call (libraryPath ["ConditionSpec", "new"])
      [libraryPath ["PartType", comparisonVariant c]] ++ ts) =
        methods onCondition (.plain c) ts := by
  simp [condition]

/-- The operands of a condition are read back, and no call stands for none. -/
theorem onCondition_operands (c : Condition) {operands : List String} (fresh : c.operands = []) :
    Calls onCondition c
      (if operands.isEmpty then []
        else Declaration.method "properties"
          [bracketed (commaSeparated (operands.map fun s => [.text s]))])
      { c with operands } := by
  obtain ⟨comparison, caseRule, column?, before⟩ := c
  obtain rfl : before = [] := fresh
  rcases Decidable.em (operands = []) with rfl | nonempty
  · exact .nil _
  · rw [if_neg (by simpa using nonempty)]
    exact .single fun rest => by simp [onCondition, bracketed]

@[simp]
theorem condition_tokens (c : Condition) (b : Bracket) (rest : Tokens) :
    condition (conditionTokens c ++ .closing b :: rest) = some (c, .closing b :: rest) := by
  obtain ⟨comparison, caseRule, column?, operands⟩ := c
  have cased : Calls onCondition (.plain comparison)
      (Declaration.method "ignore_case" [libraryPath ["IgnoreCaseType", caseRuleVariant caseRule]])
      ⟨comparison, caseRule, none, []⟩ :=
    .single fun rest => by simp [onCondition, Condition.plain]
  rw [conditionTokens, List.append_assoc, List.append_assoc, List.append_assoc, condition_start,
    ← List.append_assoc, ← List.append_assoc]
  refine Calls.methods (.append (b := ⟨comparison, caseRule, column?, []⟩) ?_
    (onCondition_operands _ rfl)) b rest
  cases column? with
  | none => exact cased.append (.nil _)
  | some column => exact cased.append (Calls.single fun rest => by simp [onCondition])

/-! ## Properties -/

/-- Take a call that adds to a property. -/
def propertyCall : String → Reader PropertyCall
  | "generated" => return .generated (← generation)
  | "sequence_generator" => return .sequenceGenerator (← generator)
  | "condition" => return .condition (← condition)
  | _ => failure

/-- Take a call on a property. -/
def onProperty (c : PropertyChain) (method : String) : Reader PropertyChain :=
  return { c with calls := c.calls ++ [← propertyCall method] }

/-- Take a property with a column. -/
def columnProperty (role : Role) : Reader PropertyChain := do
  let s ← text
  expect (.mark ",")
  let type ← typeName
  expect (.mark ",")
  return ⟨role, s, type, ← column, []⟩

/-- Take a property that stands for the columns of another entity. -/
def embeddedProperty (role : Role) : Reader PropertyChain := do
  let s ← text
  expect (.mark ",")
  return ⟨role, s, ← typeName, Property.placeholder s, []⟩

/-- Take a property without the calls on it. -/
def plainProperty : Reader PropertyChain := do
  match ← member "PersistentProperty" with
  | "basic" => within .round (columnProperty .basic)
  | "id" => within .round (columnProperty .id)
  | "embedded_id" => within .round (embeddedProperty .embeddedId)
  | "embedded" => within .round (embeddedProperty .embedded)
  | _ => failure

/-- Take a property. -/
def property : Reader PropertyChain := do
  methods onProperty (← plainProperty)

end Reader

/-- The chain as far as it is spelled: an embedded property does not name its column. -/
def PropertyChain.spelled (c : PropertyChain) : PropertyChain :=
  { c with column := if c.role.isEmbedded then Property.placeholder c.name else c.column }

/-- How the types are spelled makes no difference to the property. -/
theorem PropertyChain.build_spelled (n : Naming) (c : PropertyChain) :
    c.spelled.build n = c.build n := by
  cases h : c.role.isEmbedded <;> simp [build, spelled, Property.plain, h]

namespace Reader

/-- A call on a property is read back. -/
theorem onProperty_tokens (c : PropertyChain) (call : PropertyCall) :
    Calls onProperty c call.tokens { c with calls := c.calls ++ [call] } := by
  cases call <;> exact .single fun rest => by simp [onProperty, propertyCall]

/-- A property without calls is read back. -/
theorem plainProperty_tokens {c : PropertyChain} (h : Level true c.type) (rest : Tokens) :
    plainProperty ({ c with calls := [] }.tokens ++ rest) =
      some ({ c.spelled with calls := [] }, rest) := by
  obtain ⟨role, name, type, column, calls⟩ := c
  have named := typeName_append h
  cases role <;>
    simp [plainProperty, columnProperty, embeddedProperty, PropertyChain.tokens, roleFunction,
      PropertyChain.spelled, Role.isEmbedded, commaSeparated, named]

/-- The chain of a property reads as that property. -/
@[simp]
theorem property_tokens {c : PropertyChain} (h : Level true c.type) (b : Bracket)
    (rest : Tokens) :
    property (c.tokens ++ .closing b :: rest) = some (c.spelled, .closing b :: rest) := by
  have calls : Calls onProperty { c.spelled with calls := [] }
      (c.calls.flatMap PropertyCall.tokens) c.spelled :=
    Steps.flatMap (fun calls => { c.spelled with calls })
      (fun before call _ => onProperty_tokens { c.spelled with calls := before } call) []
  have parts : c.tokens = { c with calls := [] }.tokens ++ c.calls.flatMap PropertyCall.tokens := by
    simp [PropertyChain.tokens]
  simp [property, parts, plainProperty_tokens h, Calls.methods calls]

/-! ## Entities -/

/-- Take a call that adds to an entity. -/
def entityCall : String → Reader EntityCall
  | "schema" => return .schema (← text)
  | "quoted_table" => return .quotedTable
  | "sequence_generator" => return .sequenceGenerator (← generator)
  | "property" => return .property (← property)
  | "id_class" => return .idClass (← typeName)
  | "example" => return .isExample
  | "example_companion" => do
    expectAll [.name "concat", .mark "!"]
    within .round do
      expectAll (builtin "module_path" [] ++ [.mark ",", .text "::", .mark ","])
      return .exampleCompanion (← text)
  | "embeddable" => return .embeddable
  | _ => failure

/-- Take a call on a builder, or the one that ends the building. -/
def onBuilder (b : EntityChain × Bool) (method : String) : Reader (EntityChain × Bool) := do
  let (c, built) := b
  if built then failure
  else if method = "build" then return (c, true)
  else return ({ c with calls := c.calls ++ [← entityCall method] }, false)

/-- Take an entity, from its builder to the built entity. -/
def entityChain : Reader EntityChain := do
  expectAll (libraryPath ["PersistentEntity", "builder"])
  let table ← within .round do
    expectAll (typeNameOf [.name "Self"] ++ [.mark ","])
    text
  let (c, built) ← methods onBuilder (⟨table, []⟩, false)
  if built then return c else failure

end Reader

/-- The call as far as it is spelled. -/
def EntityCall.spelled : EntityCall → EntityCall
  | property p => .property p.spelled
  | c => c

/-- The chain as far as it is spelled. -/
def EntityChain.spelled (c : EntityChain) : EntityChain :=
  { c with calls := c.calls.map EntityCall.spelled }

/-- The property that a call adds. -/
def EntityCall.property? : EntityCall → Option PropertyChain
  | property p => some p
  | _ => none

/-- The properties that a chain adds, in order. -/
def EntityChain.properties (c : EntityChain) : List PropertyChain :=
  c.calls.filterMap EntityCall.property?

/-- Whether the brackets in the type of a call, if it has one, close each other. -/
def EntityCall.IsLevel : EntityCall → Prop
  | property p => Level true p.type
  | idClass path => Level true path
  | _ => True

/-- Spelling an entity spells its properties. -/
theorem EntityChain.properties_spelled (c : EntityChain) :
    c.spelled.properties = c.properties.map PropertyChain.spelled := by
  have same : EntityCall.property? ∘ EntityCall.spelled =
      fun call => call.property?.map PropertyChain.spelled := by
    funext call
    cases call <;> rfl
  rw [properties, spelled, List.filterMap_map, same, properties, List.map_filterMap]

/-- How the types are spelled makes no difference to the entity. -/
theorem EntityChain.build_spelled (n : Naming) (c : EntityChain) :
    c.spelled.build n = c.build n := by
  have same (e : Entity) (call : EntityCall) : call.spelled.apply n e = call.apply n e := by
    cases call <;> simp [EntityCall.spelled, EntityCall.apply, PropertyChain.build_spelled]
  simp [build, spelled, List.foldl_map, same]

namespace Reader

/-- A call on the builder of an entity is read back. -/
theorem onBuilder_tokens (c : EntityChain) {call : EntityCall} (h : call.IsLevel) :
    Calls onBuilder (c, false) call.tokens
      ({ c with calls := c.calls ++ [call.spelled] }, false) := by
  cases call with
  | property p =>
    exact .single fun rest => by simp [onBuilder, entityCall, EntityCall.spelled, property_tokens h]
  | idClass path =>
    exact .single fun rest => by simp [onBuilder, entityCall, EntityCall.spelled, typeName_append h]
  | _ =>
    exact .single fun rest => by
      simp [onBuilder, entityCall, EntityCall.spelled, builtin, commaSeparated, expectAll]

/-- The chain of an entity reads as that entity. -/
@[simp]
theorem entityChain_tokens {c : EntityChain} (h : ∀ call ∈ c.calls, call.IsLevel) (b : Bracket)
    (rest : Tokens) :
    entityChain (c.tokens ++ .closing b :: rest) = some (c.spelled, .closing b :: rest) := by
  have calls : Calls onBuilder (⟨c.table, []⟩, false) (c.calls.flatMap EntityCall.tokens)
      (c.spelled, false) :=
    Steps.flatMap (fun calls => (EntityChain.spelled ⟨c.table, calls⟩, false))
      (fun before call hcall => by
        simpa [EntityChain.spelled] using
          onBuilder_tokens (EntityChain.spelled ⟨c.table, before⟩) (h call hcall)) []
  have built : Calls onBuilder (c.spelled, false) (Declaration.method "build" [])
      (c.spelled, true) := .single fun rest => by simp [onBuilder, commaSeparated]
  have start := expectAll_append (typeNameOf [.name "Self"] ++ [.mark ","])
  have all := Calls.methods (calls.append built) b rest
  simp_all [entityChain, EntityChain.tokens, commaSeparated]

end Reader

end EntityMapping.Declaration
