import EntityMapping.Declaration.Attribute
import EntityMapping.Declaration.ColumnType
import EntityMapping.Declaration.Fault
import EntityMapping.Declaration.Vocabulary

/-!
# Plans of fields

What the attributes of a field say about its property.  The arguments of an attribute are
read in order and the first fault ends the attribute; the faults of the attributes and those
of their combination are all kept.

Main results:

- `FieldPlan.columnName_of_unnamed`: without a name of its own a column is named like its
  field.
-/

namespace EntityMapping.Declaration

/-! ## Arguments -/

/-- The text that an argument has as its value. -/
def Argument.text (a : Argument) : Except Fault String :=
  match a.form with
  | .value (.text s) => .ok s
  | .value _ => .error .valueNotText
  | _ => .error .missingValue

/-- What a word, given as the value of an argument, names. -/
def Argument.word (a : Argument) (meaning : String → Option α) (unknown : Fault) :
    Except Fault α := do
  match meaning (← a.text) with
  | some value => .ok value
  | none => .error unknown

/-- Check that an argument is its name alone. -/
def Argument.bare (a : Argument) : Except Fault Unit :=
  match a.form with
  | .bare => .ok ()
  | _ => .error .unexpectedValue

/-- The texts of values that must all be texts. -/
def textsOf : List Literal → Except Fault (List String)
  | [] => .ok []
  | .text s :: rest => (textsOf rest).map (s :: ·)
  | _ :: _ => .error .valueNotText

/-- The texts that an argument lists. -/
def Argument.texts (a : Argument) (isLast : Bool) : Except Fault (List String) :=
  match a.form with
  | .list literals => textsOf literals
  | .bare => .error (if isLast then .missingListAtEnd else .missingList)
  | .value _ => .error .missingList

/-- Read arguments in order; a step is told whether its argument is the last one. -/
def readArguments (step : σ → Argument → Bool → Except Fault σ) :
    σ → List Argument → Except Fault σ
  | s, [] => .ok s
  | s, a :: rest => do
    let s ← step s a rest.isEmpty
    readArguments step s rest

@[simp]
theorem readArguments_nil (step : σ → Argument → Bool → Except Fault σ) (s : σ) :
    readArguments step s [] = .ok s := rfl

/-! ## Columns -/

/-- What a declaration says about a column. -/
structure ColumnPlan where
  name? : Option String
  type? : Option JdbcType
  quoted : Bool
deriving DecidableEq, Repr

/-- One argument of a column. -/
def ColumnPlan.step (c : ColumnPlan) (a : Argument) (_ : Bool) : Except Fault ColumnPlan := do
  if a.name = "name" then
    return { c with name? := some (← a.text) }
  else if a.name = "jdbc_type" then
    return { c with type? := some (← a.word columnType? .unknownColumnType) }
  else if a.name = "quoted" then do
    a.bare
    return { c with quoted := true }
  else .error (.unknownArgument "`name`, `jdbc_type` or `quoted`")

/-- The column that an attribute describes. -/
def ColumnPlan.read (a : Attribute) : Except Fault ColumnPlan :=
  readArguments ColumnPlan.step ⟨none, none, false⟩ a.arguments

/-! ## Key generation -/

/-- One argument of a generated key. -/
def generationStep (g : KeyGeneration) (a : Argument) (_ : Bool) : Except Fault KeyGeneration := do
  if a.name = "strategy" then
    return { g with strategy := ← a.word strategy? .unknownStrategy }
  else if a.name = "generator" then
    return { g with generator? := some (← a.text) }
  else .error (.unknownArgument "`strategy` or `generator`")

/-- The key generation that an attribute describes. -/
def readGeneration (a : Attribute) : Except Fault KeyGeneration :=
  readArguments generationStep ⟨.auto, none⟩ a.arguments

/-! ## Conditions -/

/-- One argument of a condition. -/
def conditionStep (c : Condition) (a : Argument) (isLast : Bool) : Except Fault Condition := do
  if a.name = "kind" then
    return { c with comparison := ← a.word comparison? .unknownComparison }
  else if a.name = "ignore_case" then
    return { c with caseRule := ← a.word caseRule? .unknownCaseRule }
  else if a.name = "column" then
    return { c with column? := some (← a.text) }
  else if a.name = "properties" then
    return { c with operands := ← a.texts isLast }
  else .error (.unknownArgument "`kind`, `ignore_case`, `column` or `properties(...)`")

/-- The condition that an attribute describes. -/
def readCondition (a : Attribute) : Except Fault Condition :=
  readArguments conditionStep (.plain .simpleProperty) a.arguments

/-! ## Sequence generators -/

/-- A sequence generator whose name may not be known yet. -/
structure GeneratorDraft where
  name? : Option String
  sequence : String

/-- One argument of a sequence generator. -/
def generatorStep (g : GeneratorDraft) (a : Argument) (_ : Bool) : Except Fault GeneratorDraft := do
  if a.name = "name" then
    return { g with name? := some (← a.text) }
  else if a.name = "sequence" then
    return { g with sequence := ← a.text }
  else .error (.unknownArgument "`name` or `sequence`")

/-- The sequence generator that an attribute describes. -/
def readGenerator (a : Attribute) : Except Fault SequenceGenerator := do
  let draft ← readArguments generatorStep ⟨none, ""⟩ a.arguments
  match draft.name? with
  | some name => return ⟨name, draft.sequence⟩
  | none => .error .missingGeneratorName

/-- The sequence generators among attributes, up to the first that is faulty. -/
def readGenerators : List Attribute → Except Fault (List SequenceGenerator)
  | [] => .ok []
  | a :: rest =>
    if a.name = "sequence_generator" then do
      let generator ← readGenerator a
      let others ← readGenerators rest
      return generator :: others
    else readGenerators rest

/-! ## Fields -/

/-- What a declaration says about a field. -/
structure FieldPlan where
  name : String
  type : Tokens
  naturalType : JdbcType
  role : Role
  column : ColumnPlan
  generated? : Option KeyGeneration
  conditions : List Condition
  generators : List SequenceGenerator
  transient : Bool
deriving DecidableEq, Repr

namespace FieldPlan

/-- The name of the column. -/
def columnName (f : FieldPlan) : String := f.column.name?.getD f.name

/-- The type of the column: the one given, or the one that follows from the field's type. -/
def columnType (f : FieldPlan) : JdbcType := f.column.type?.getD f.naturalType

/-- Whether the field is embedded. -/
def isEmbedded (f : FieldPlan) : Bool := f.role.isEmbedded

/-- Without a name of its own a column is named like its field. -/
theorem columnName_of_unnamed {f : FieldPlan} (h : f.column.name? = none) :
    f.columnName = f.name := by
  simp [columnName, h]

end FieldPlan

/-- A field whose attributes are being read: what they said so far, whether it has a column
attribute, and the faults found. -/
structure FieldDraft where
  plan : FieldPlan
  hasColumn : Bool
  faults : List Fault

namespace FieldDraft

/-- The role that an attribute marks. -/
def markedRole? (name : String) : Option Role :=
  if name = "id" then some .id
  else if name = "embedded_id" then some .embeddedId
  else if name = "embedded" then some .embedded
  else none

/-- The draft with another fault. -/
def blame (d : FieldDraft) (f : Fault) : FieldDraft := { d with faults := d.faults ++ [f] }

/-- The draft with a fault if a rule is broken. -/
def blameIf (d : FieldDraft) (broken : Bool) (f : Fault) : FieldDraft :=
  if broken then d.blame f else d

/-- The draft with a role marked. -/
def mark (d : FieldDraft) (role : Role) : FieldDraft :=
  let d := d.blameIf (d.plan.role != .basic) (.conflictingMarkers role d.plan.role)
  { d with plan := { d.plan with role } }

/-- The draft after one attribute. -/
def step (d : FieldDraft) (a : Attribute) : FieldDraft :=
  match markedRole? a.name with
  | some role => d.mark role
  | none =>
    if a.name = "transient" then { d with plan := { d.plan with transient := true } }
    else if a.name = "column" then
      let d := { d with hasColumn := true }
      match ColumnPlan.read a with
      | .ok column => { d with plan := { d.plan with column } }
      | .error f => d.blame f
    else if a.name = "generated" then
      match readGeneration a with
      | .ok g => { d with plan := { d.plan with generated? := some g } }
      | .error f => { d.blame f with plan := { d.plan with generated? := none } }
    else if a.name = "condition" then
      match readCondition a with
      | .ok c => { d with plan := { d.plan with conditions := d.plan.conditions ++ [c] } }
      | .error f => d.blame f
    else d

/-- The draft with the sequence generators among attributes. -/
def addGenerators (d : FieldDraft) (attributes : List Attribute) : FieldDraft :=
  match readGenerators attributes with
  | .ok generators => { d with plan := { d.plan with generators } }
  | .error f => d.blame f

/-- The draft after the rules on how attributes combine. -/
def checkRules (d : FieldDraft) : FieldDraft :=
  let embedded := d.plan.isEmbedded
  ((d.blameIf (embedded && d.hasColumn) .columnOnEmbedded).blameIf
    (embedded && !d.plan.conditions.isEmpty) .conditionOnEmbedded).blameIf
    (d.plan.generated?.isSome && d.plan.role != .id) .generatedWithoutId

/-- The draft of a field before its attributes are read. -/
def start (f : FieldDeclaration) : FieldDraft :=
  { plan :=
      { name := f.name
        type := (typeOf f.type).2
        naturalType := columnTypeOf f.type
        role := .basic
        column := ⟨none, none, false⟩
        generated? := none
        conditions := []
        generators := []
        transient := false }
    hasColumn := false
    faults := [] }

end FieldDraft

/-- The plan of a field, or all its faults. -/
def FieldPlan.ofDeclaration (f : FieldDeclaration) : Checked FieldPlan :=
  let d := ((f.attributes.foldl FieldDraft.step (.start f)).addGenerators f.attributes).checkRules
  if d.faults.isEmpty then .ok d.plan else .error d.faults

end EntityMapping.Declaration
