import EntityMapping.Declaration.Expansion
import EntityMapping.Proofs.Declaration.Acceptance
import EntityMapping.Proofs.Declaration.ChainReading
import EntityMapping.Proofs.Declaration.ExpressionPhrases

/-!
# Entities that expansions build

The code that an accepted declaration stands for implements two functions.  Read back, the
first one builds the entity that the plan of the declaration describes, and the second one
registers the types of the embedded fields.  An embedded field owns no column; what stands for
it is a plain column that is named like the field and has the default type.

Main results:

- `EntityPlan.build_chain`: the chain of a plan builds the entity that the plan describes.
- `FieldPlan.placeholder_of_ofDeclaration`: an accepted embedded field has a plain column.
- `SettingsDraft.keyClassIsLevel_foldl`, `EntityPlan.level_of_mem_fields`: the brackets in the
  types of an accepted plan close each other.
- `EntityPlan.expand_reads`: what the expansion of an accepted declaration builds and registers.
-/

namespace EntityMapping.Declaration

/-! ## Described entities -/

/-- The property that a plan describes.  An embedded field has no column of its own, and the
type of the placeholder is the one that columns have by default. -/
def FieldPlan.property (n : Naming) (f : FieldPlan) : Property :=
  { name := f.name
    typeName := n.fullName f.type
    column := ⟨⟨f.columnName, f.column.quoted⟩, if f.isEmbedded then .varchar else f.columnType⟩
    role := f.role
    generated? := f.generated?
    generators := f.generators
    conditions := f.conditions }

namespace EntityPlan

/-- The entity that a plan describes. -/
def entity (n : Naming) (p : EntityPlan) : Entity :=
  { typeName := n.selfName
    table := ⟨p.table, p.quoted⟩
    schema? := p.schema?.map .plain
    properties := p.fields.map (·.property n)
    keyClass? := p.keyClass?.map n.fullName
    supportsExample := p.isExample
    companion? := if p.isExample then some (n.modulePath ++ "::" ++ p.exampleName) else none
    generators := p.generators
    embeddable := p.embeddable }

/-- The embedded fields of a plan have plain columns that are named like the fields. -/
def HasPlainPlaceholders (p : EntityPlan) : Prop :=
  ∀ f ∈ p.fields, f.isEmbedded → f.columnName = f.name ∧ f.column.quoted = false

end EntityPlan

/-! ## What chains build -/

/-- A fold over values that are known by the things taken so far. -/
theorem foldl_known {α γ : Type} (f : α → γ → α) (value : List γ → α)
    (h : ∀ before x, f (value before) x = value (before ++ [x])) (xs before : List γ) :
    xs.foldl f (value before) = value (before ++ xs) := by
  induction xs generalizing before with
  | nil => simp
  | cons x rest ih => rw [List.foldl_cons, h, ih, List.append_assoc, List.singleton_append]

/-- Calls for sequence generators add them to the property in order. -/
theorem PropertyCall.foldl_sequenceGenerator (gs : List SequenceGenerator) (p : Property) :
    (gs.map PropertyCall.sequenceGenerator).foldl PropertyCall.apply p =
      { p with generators := p.generators ++ gs } := by
  rw [List.foldl_map]
  exact foldl_known (fun p g => (sequenceGenerator g).apply p)
    (fun gs => { p with generators := gs }) (fun _ _ => rfl) gs p.generators

/-- Calls for conditions add them to the property in order. -/
theorem PropertyCall.foldl_condition (cs : List Condition) (p : Property) :
    (cs.map PropertyCall.condition).foldl PropertyCall.apply p =
      { p with conditions := p.conditions ++ cs } := by
  rw [List.foldl_map]
  exact foldl_known (fun p c => (condition c).apply p)
    (fun cs => { p with conditions := cs }) (fun _ _ => rfl) cs p.conditions

/-- Calls for sequence generators add them to the entity in order. -/
theorem EntityCall.foldl_sequenceGenerator (n : Naming) (gs : List SequenceGenerator)
    (e : Entity) : (gs.map EntityCall.sequenceGenerator).foldl (EntityCall.apply n) e =
      { e with generators := e.generators ++ gs } := by
  rw [List.foldl_map]
  exact foldl_known (fun e g => (sequenceGenerator g).apply n e)
    (fun gs => { e with generators := gs }) (fun _ _ => rfl) gs e.generators

/-- Calls for properties add them to the entity in order. -/
theorem EntityCall.foldl_property (n : Naming) (cs : List PropertyChain) (e : Entity) :
    (cs.map EntityCall.property).foldl (EntityCall.apply n) e =
      { e with properties := e.properties ++ cs.map (·.build n) } := by
  rw [List.foldl_map]
  have built := foldl_known (fun e c => (property c).apply n e)
    (fun cs => { e with properties := e.properties ++ cs.map (·.build n) })
    (fun before c => by simp [apply]) cs []
  simpa using built

/-- The chain of a field builds the property that the field describes. -/
theorem FieldPlan.build_chain (n : Naming) {f : FieldPlan}
    (h : f.isEmbedded → f.columnName = f.name ∧ f.column.quoted = false) :
    f.chain.build n = f.property n := by
  have column : (if f.role.isEmbedded then Property.placeholder f.name
      else ⟨⟨f.columnName, f.column.quoted⟩, f.columnType⟩) = (f.property n).column := by
    by_cases embedded : f.isEmbedded
    · obtain ⟨name, quoted⟩ := h embedded
      have role : f.role.isEmbedded = true := embedded
      simp [property, embedded, role, name, quoted, Property.placeholder, Identifier.plain]
    · have role : ¬ f.role.isEmbedded := embedded
      simp [property, embedded, role]
  cases generated : f.generated? <;>
    simp [PropertyChain.build, chain, Property.plain, List.foldl_append,
      PropertyCall.foldl_sequenceGenerator, PropertyCall.foldl_condition, PropertyCall.apply,
      column, generated] <;> simp [property, generated]

/-- The chain of a plan builds the entity that the plan describes. -/
theorem EntityPlan.build_chain (n : Naming) {p : EntityPlan} (h : p.HasPlainPlaceholders) :
    p.chain.build n = p.entity n := by
  have properties (e : Entity) :
      (p.fields.map fun f => EntityCall.property f.chain).foldl (EntityCall.apply n) e =
        { e with properties := e.properties ++ p.fields.map (·.property n) } := by
    have same : (p.fields.map (·.chain)).map (·.build n) = p.fields.map (·.property n) := by
      rw [List.map_map]
      exact List.map_congr_left fun f hf => f.build_chain n (h f hf)
    rw [← same, ← EntityCall.foldl_property, List.map_map]
    rfl
  cases hschema : p.schema? <;> cases hquoted : p.quoted <;> cases hkey : p.keyClass? <;>
    cases hexample : p.isExample <;> cases hembeddable : p.embeddable <;>
    simp [EntityChain.build, chain, entity, Entity.plain, callsIf, List.foldl_append,
      EntityCall.foldl_sequenceGenerator, EntityCall.apply, properties,
      hschema, hquoted, hkey, hexample, hembeddable, Identifier.plain]

/-! ## Accepted plans -/

/-- A planned field comes from a field that was checked without faults. -/
theorem mem_plannedFields {f : FieldPlan} {checked : List (Checked FieldPlan)}
    (h : f ∈ plannedFields checked) : .ok f ∈ checked := by
  induction checked with
  | nil => cases h
  | cons c rest ih =>
    cases c with
    | error faults => exact .tail _ (ih h)
    | ok g =>
      rw [plannedFields] at h
      split at h
      · exact .tail _ (ih h)
      · rcases List.mem_cons.mp h with rfl | h
        · exact .head _
        · exact .tail _ (ih h)

/-- An accepted embedded field has a plain column that is named like the field. -/
theorem FieldPlan.placeholder_of_ofDeclaration {d : FieldDeclaration} {f : FieldPlan}
    (h : ofDeclaration d = .ok f) (embedded : f.isEmbedded) :
    f.columnName = f.name ∧ f.column.quoted = false := by
  have lawful : d.Lawful := ofDeclaration_isOk_iff.mp ⟨f, h⟩
  have plans : d.Plans f := plans_of_ofDeclaration h
  have marked : d.has "embedded_id" ∨ d.has "embedded" := by
    have role : f.role.isEmbedded = true := embedded
    rw [plans.role] at role
    split_ifs at role <;> simp_all [Role.isEmbedded]
  have bare : called "column" d.attributes = [] := by
    simpa [FieldDeclaration.has] using (lawful.embedded_plain marked).1
  have column : f.column = ⟨none, none, false⟩ := by
    simpa [bare, eq_comm] using plans.column
  simp [columnName, column]

namespace SettingsDraft

/-- A key class that is known is a path, so that its brackets close each other. -/
def KeyClassIsLevel (d : SettingsDraft) : Prop := ∀ path ∈ d.keyClass?, Level true path

variable {d : SettingsDraft}

/-- A key class is read only if its brackets match. -/
theorem level_of_readPath {a : Argument} {atEnd : Bool} {path : Tokens}
    (h : readPath a atEnd = .ok path) : Level true path := by
  unfold readPath at h
  split at h
  · cases h
  · cases h
  · split at h
    next found =>
      obtain ⟨ts, -, hread⟩ := Option.bind_eq_some_iff.mp found
      obtain rfl := Except.ok.inj h
      exact level_of_readPath? hread
    next => cases h
  · split at h
    next hread =>
      obtain rfl := Except.ok.inj h
      exact level_of_readPath? hread
    next => cases h
  · cases h

/-- What was read keeps the key class level if it is set to level values only. -/
theorem KeyClassIsLevel.put {α : Type} (h : d.KeyClassIsLevel) {read : Except Fault α}
    {set : SettingsDraft → α → SettingsDraft}
    (hset : ∀ value, read = .ok value → (set d value).KeyClassIsLevel) :
    (d.put read set).KeyClassIsLevel := by
  cases hread : read with
  | ok value => exact hset value hread
  | error fault => exact h

/-- Assigning a setting keeps the key class level. -/
theorem KeyClassIsLevel.assign (h : d.KeyClassIsLevel) (a : Argument) (atEnd : Bool) :
    (d.assign a atEnd).KeyClassIsLevel := by
  unfold SettingsDraft.assign
  split_ifs
  pick_goal 6
  · exact h.put fun path hread _ hpath =>
      Option.some.inj hpath ▸ level_of_readPath hread
  all_goals exact h.put fun _ _ => h

/-- Reading one argument keeps the key class level. -/
theorem KeyClassIsLevel.step (h : d.KeyClassIsLevel) (a : Argument) (atEnd : Bool) :
    (d.step a atEnd).KeyClassIsLevel := by
  unfold SettingsDraft.step
  split
  · exact h
  · split
    · exact h
    · exact KeyClassIsLevel.assign (d := { d with met := a.name :: d.met }) h a atEnd

/-- Reading all arguments keeps the key class level. -/
theorem KeyClassIsLevel.stepAll (h : d.KeyClassIsLevel) (as : List Argument) :
    (d.stepAll as).KeyClassIsLevel := by
  induction as generalizing d with
  | nil => exact h
  | cons a rest ih => exact ih (h.step a rest.isEmpty)

/-- Reading an attribute keeps the key class level. -/
theorem KeyClassIsLevel.read (h : d.KeyClassIsLevel) (a : Attribute) :
    (d.read a).KeyClassIsLevel := by
  unfold SettingsDraft.read
  split_ifs
  · split
    · exact h
    · exact h
    · split_ifs
      · exact h
      · exact h.stepAll _
  · exact h

/-- However many attributes are read, the brackets of the key class match. -/
theorem keyClassIsLevel_foldl (as : List Attribute) :
    (as.foldl SettingsDraft.read .start).KeyClassIsLevel :=
  List.foldlRecOn as SettingsDraft.read (fun _ h => nomatch h) fun _ h a _ => h.read a

end SettingsDraft

/-- The fields of a declaration have types, not just any tokens. -/
def TypeDeclaration.IsTyped (t : TypeDeclaration) : Prop :=
  ∀ f ∈ t.fields, (readType? f.type).isSome

instance (t : TypeDeclaration) : Decidable t.IsTyped :=
  inferInstanceAs (Decidable (∀ f ∈ t.fields, (readType? f.type).isSome))

namespace EntityPlan

variable {t : TypeDeclaration} {p : EntityPlan}

/-- An accepted plan has the planned fields and the key class of the settings. -/
theorem parts_of_ofDeclaration (h : ofDeclaration t = .ok p) :
    p.fields = plannedFields (t.fields.map FieldPlan.ofDeclaration) ∧
      p.keyClass? = (t.attributes.foldl SettingsDraft.read .start).keyClass? := by
  obtain ⟨d, hsettings, hplan⟩ := bind_eq_ok.mp h
  obtain rfl : t.attributes.foldl SettingsDraft.read .start = d := by
    dsimp only [readSettings] at hsettings
    split at hsettings
    · exact Except.ok.inj hsettings
    · cases hsettings
  dsimp only at hplan
  split at hplan
  · obtain rfl := Except.ok.inj hplan
    exact ⟨rfl, rfl⟩
  · cases hplan

/-- A field of a plan is planned from a field of the declaration. -/
theorem exists_field_of_ofDeclaration (h : ofDeclaration t = .ok p) {f : FieldPlan}
    (hf : f ∈ p.fields) : ∃ d ∈ t.fields, FieldPlan.ofDeclaration d = .ok f := by
  rw [(parts_of_ofDeclaration h).1] at hf
  simpa using mem_plannedFields hf

/-- In a plan the embedded fields have plain placeholders for columns. -/
theorem hasPlainPlaceholders_of_ofDeclaration (h : ofDeclaration t = .ok p) :
    p.HasPlainPlaceholders := by
  intro f hf
  obtain ⟨d, -, hd⟩ := exists_field_of_ofDeclaration h hf
  exact FieldPlan.placeholder_of_ofDeclaration hd

/-- The brackets in the type of a planned field match. -/
theorem level_of_mem_fields (h : ofDeclaration t = .ok p) (typed : t.IsTyped) {f : FieldPlan}
    (hf : f ∈ p.fields) : Level true f.type := by
  obtain ⟨d, hmem, hd⟩ := exists_field_of_ofDeclaration h hf
  obtain ⟨⟨shape, written⟩, hread⟩ := Option.isSome_iff_exists.mp (typed d hmem)
  rw [(FieldPlan.plans_of_ofDeclaration hd).type, typeOf_of_readType? hread]
  exact level_of_readType? hread

/-- The brackets in each call of a planned chain match. -/
theorem isLevel_of_mem_calls (h : ofDeclaration t = .ok p) (typed : t.IsTyped) :
    ∀ call ∈ p.chain.calls, call.IsLevel := by
  intro call hcall
  cases call with
  | property c =>
    obtain ⟨f, hf, rfl⟩ : ∃ f ∈ p.fields, f.chain = c := by
      simpa [chain, callsIf] using hcall
    exact level_of_mem_fields h typed hf
  | idClass path =>
    have hpath : p.keyClass? = some path := by simpa [chain, callsIf] using hcall
    rw [(parts_of_ofDeclaration h).2] at hpath
    exact SettingsDraft.keyClassIsLevel_foldl t.attributes path hpath
  | _ => trivial

end EntityPlan

/-! ## Implementations read back -/

namespace Reader

/-- Take the function that builds an entity. -/
def entityFunction : Reader EntityChain := do
  expectAll (.name "fn" :: call [.name "persistent_entity"] [] ++
    .mark "->" :: libraryPath ["PersistentEntity"])
  within .curly entityChain

/-- Take the registration of a type, of which the first token is known. -/
def registration (types : List Tokens) : Reader (List Tokens) := do
  expectAll [.mark ".", .name "register", .mark "::", .mark "<"]
  let type ← upToAngle ⟨0, 0, false⟩
  within .round (pure ())
  expect (.mark ";")
  return types ++ [type]

/-- Take the function that registers types, if there is one: by default no type is registered. -/
def registerFunction : Reader (List Tokens)
  | .name "fn" :: rest => (do
    expectAll (call [.name "register_embedded"]
      [.name "context" :: .mark ":" :: .mark "&" :: .name "mut" :: libraryPath ["MappingContext"]])
    within .curly (whileNext (.name "context") registration [])) rest
  | ts => some ([], ts)

/-- Take the functions of an implementation: the entity, and the types that are registered. -/
def implementation : Reader (EntityChain × List Tokens) := do
  let entity ← entityFunction
  return (entity, ← registerFunction)

/-- What tokens are read as, if nothing is left of them. -/
def complete? (r : Reader α) (ts : Tokens) : Option α :=
  match r ts with
  | some (a, []) => some a
  | _ => none

/-- The function that builds the entity is read back. -/
theorem entityFunction_tokens {c : EntityChain} (h : ∀ call ∈ c.calls, call.IsLevel)
    (rest : Tokens) :
    entityFunction (Declaration.entityFunction c ++ rest) = some (c.spelled, rest) := by
  have head := expectAll_append (.name "fn" :: call [.name "persistent_entity"] [] ++
    .mark "->" :: libraryPath ["PersistentEntity"])
  have body := entityChain_tokens h .curly rest
  simp_all [entityFunction, Declaration.entityFunction, braced]

/-- The registration of one type is read back as one step. -/
theorem registration_tokens {type : Tokens} (h : Level true type) (types : List Tokens) :
    Steps (.name "context") registration types (Declaration.registration type)
      (types ++ [type]) := by
  have one (rest : Tokens) : registration types (.mark "." ::
      call (.name "register" :: .mark "::" :: .mark "<" :: type ++ [.mark ">"]) [] ++ [.mark ";"] ++
        rest) = some (types ++ [type], rest) := by
    simp [registration, expectAll, commaSeparated, upToAngle_append h]
  simpa [Declaration.registration] using Steps.cons one (.nil (types ++ [type]))

/-- The function that registers the embedded types is read back. -/
theorem registerFunction_tokens {types : List Tokens} (h : ∀ type ∈ types, Level true type) :
    registerFunction (Declaration.registerFunction types) = some (types, []) := by
  have steps : Steps (.name "context") registration [] (types.flatMap Declaration.registration)
      types :=
    Steps.flatMap id (fun before type htype => registration_tokens (h type htype) before) []
  have body (rest : Tokens) : whileNext (.name "context") registration []
      (types.flatMap Declaration.registration ++ .closing .curly :: rest) =
        some (types, .closing .curly :: rest) := steps.run (by simp)
  have head := expectAll_append (call [.name "register_embedded"]
    [.name "context" :: .mark ":" :: .mark "&" :: .name "mut" :: libraryPath ["MappingContext"]])
  unfold Declaration.registerFunction
  split
  next none => simp_all [registerFunction]
  next => simp_all [registerFunction, braced]

end Reader

namespace EntityPlan

variable {t : TypeDeclaration} {p : EntityPlan}

/-- What stands before the body of the implementation. -/
def header (p : EntityPlan) : Tokens :=
  let parameters := genericParameters p.generics
  .name "impl" :: introducedParameters parameters ++ libraryPath ["Persistent"] ++
    .name "for" :: .name p.name :: usedParameters parameters ++ whereClause p.bounds

/-- The body of the implementation. -/
def body (p : EntityPlan) : Tokens :=
  entityFunction p.chain ++ registerFunction (p.embeddedFields.map (·.type))

/-- The code of a plan is its header, its body in braces and the companion type. -/
theorem tokens_eq (p : EntityPlan) : p.tokens = p.header ++ braced p.body ++ companionType p :=
  rfl

/-- The chain of a plan adds the properties of its fields, and no others. -/
theorem properties_chain (p : EntityPlan) : p.chain.properties = p.fields.map (·.chain) := by
  have schema : (p.schema?.map EntityCall.schema).toList.filterMap EntityCall.property? = [] := by
    cases p.schema? <;> rfl
  have quoted : (callsIf p.quoted [.quotedTable]).filterMap EntityCall.property? = [] := by
    cases p.quoted <;> rfl
  have generators :
      (p.generators.map EntityCall.sequenceGenerator).filterMap EntityCall.property? = [] := by
    simp [List.filterMap_eq_nil_iff, EntityCall.property?]
  have fields : (p.fields.map fun f => EntityCall.property f.chain).filterMap EntityCall.property? =
      p.fields.map (·.chain) := by
    rw [List.filterMap_map, ← List.filterMap_eq_map]
    rfl
  have keyClass :
      (p.keyClass?.map EntityCall.idClass).toList.filterMap EntityCall.property? = [] := by
    cases p.keyClass? <;> rfl
  have exampleCalls : (callsIf p.isExample
      [.isExample, .exampleCompanion p.exampleName]).filterMap EntityCall.property? = [] := by
    cases p.isExample <;> rfl
  have embeddable : (callsIf p.embeddable [.embeddable]).filterMap EntityCall.property? = [] := by
    cases p.embeddable <;> rfl
  simp only [EntityChain.properties, chain, List.filterMap_append, schema, quoted, generators,
    fields, keyClass, exampleCalls, embeddable, List.nil_append, List.append_nil]

/-- What stands in the body of an expansion is an implementation: its first function builds the
entity that the plan describes, and its second one registers the types of the embedded fields
in their order, each as it is spelled in its property. -/
theorem expand_reads (h : ofDeclaration t = .ok p) (typed : t.IsTyped) :
    expand t = p.header ++ braced p.body ++ companionType p ∧
      ∃ c types, Reader.implementation.complete? p.body = some (c, types) ∧
        (∀ n, c.build n = p.entity n) ∧
        types = p.embeddedFields.map (·.type) ∧
        types = (c.properties.filter (·.role.isEmbedded)).map (·.type) := by
  have calls := isLevel_of_mem_calls h typed
  have types : ∀ type ∈ p.embeddedFields.map (·.type), Level true type := by
    rintro _ htype
    obtain ⟨f, hf, rfl⟩ := List.mem_map.mp htype
    exact level_of_mem_fields h typed (List.mem_of_mem_filter hf)
  refine ⟨(expand_of_plan h).trans p.tokens_eq, p.chain.spelled, _, ?_, fun n => ?_, rfl, ?_⟩
  · simp [Reader.complete?, Reader.implementation, body, Reader.entityFunction_tokens calls,
      Reader.registerFunction_tokens types]
  · rw [EntityChain.build_spelled, build_chain n (hasPlainPlaceholders_of_ofDeclaration h)]
  · rw [EntityChain.properties_spelled, properties_chain, List.map_map, List.filter_map,
      List.map_map]
    rfl

/-- An order line has embedded fields, and its expansion is read back. -/
theorem expand_reads_orderLine : Samples.orderLine.IsTyped ∧
    ∃ p, ofDeclaration Samples.orderLine = .ok p ∧
      ∃ c types, Reader.implementation.complete? p.body = some (c, types) ∧
        (∀ n, c.build n = p.entity n) ∧ types = p.embeddedFields.map (·.type) := by
  have typed : Samples.orderLine.IsTyped := by decide +kernel
  obtain ⟨p, hp⟩ : ∃ p, ofDeclaration Samples.orderLine = .ok p := isOk_iff.mp (by decide +kernel)
  obtain ⟨-, c, types, hread, hbuild, htypes, -⟩ := expand_reads hp typed
  exact ⟨typed, p, hp, c, types, hread, hbuild, htypes⟩

/-- The embedded fields of an order line have types from which no column type follows, but
the entity that is built shows the one that columns have by default. -/
theorem columnType_embedded_orderLine :
    ((ofDeclaration Samples.orderLine).toOption.map fun p =>
      p.fields.map fun f => (f.name, f.columnType)) =
        some [("key", .other), ("qty", .integer), ("ship_to", .other)] ∧
    ((ofDeclaration Samples.orderLine).toOption.bind fun p =>
      (Reader.implementation.complete? p.body).map fun r =>
        (r.1.build ((Samples.shop "shop").naming "OrderLine")).properties.map fun q =>
          (q.name, q.column.type)) =
        some [("key", .varchar), ("qty", .integer), ("ship_to", .varchar)] := by
  decide +kernel

end EntityPlan

end EntityMapping.Declaration
