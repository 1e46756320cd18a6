import EntityMapping.Declaration.FieldPlan
import EntityMapping.Declaration.Lexer
import EntityMapping.Text.Snake

/-!
# Plans of entities

What a declaration says about an entity.  The settings of the entity and its shape come
first, and their faults end the check; then all fields are checked, the sequence generators
of the entity, and the rules on ids.  Transient fields are checked, but they do not count.

Definitions:

- `readSettings`: the settings of an entity, or the faults in them.
- `EntityPlan.ofDeclaration`: the plan of a declaration, or its faults.
-/

namespace EntityMapping.Declaration

/-! ## Settings -/

/-- The settings of an entity as far as they are read: their values, the names met, and the
faults found. -/
structure SettingsDraft where
  table? : Option String
  schema? : Option String
  quoted : Bool
  isExample : Bool
  embeddable : Bool
  keyClass? : Option Tokens
  met : List String
  faults : List Fault

namespace SettingsDraft

/-- The settings before anything is read. -/
def start : SettingsDraft := ⟨none, none, false, false, false, none, [], []⟩

/-- The draft with another fault. -/
def blame (d : SettingsDraft) (f : Fault) : SettingsDraft := { d with faults := d.faults ++ [f] }

/-- The value of a setting that is a text. -/
def readText (a : Argument) (atEnd : Bool) : Except Fault String :=
  match a.form with
  | .bare => .error (.wrongForm "word" a.name)
  | .list _ => .error (.wrongForm "list" a.name)
  | .value (.text s) => .ok s
  | .value l => .error (.wrongKind (l.kind atEnd) a.name)

/-- The value of a setting that is a flag. -/
def readFlag (a : Argument) (atEnd : Bool) : Except Fault Bool :=
  match a.form with
  | .bare => .ok true
  | .list _ => .error (.wrongForm "list" a.name)
  | .value (.bool b) => .ok b
  | .value (.text s) =>
    if s = "true" then .ok true
    else if s = "false" then .ok false
    else .error (.wrongValue s a.name)
  | .value l => .error (.wrongKind (l.kind atEnd) a.name)

/-- The value of a setting that is a path. -/
def readPath (a : Argument) (atEnd : Bool) : Except Fault Tokens :=
  match a.form with
  | .bare => .error (.wrongForm "word" a.name)
  | .list _ => .error (.wrongForm "list" a.name)
  | .value (.text s) =>
    match (tokens? s).filter areWellFormed >>= readPath? true with
    | some path => .ok path
    | none => .error (.wrongValue s a.name)
  | .value (.tokens ts) =>
    match readPath? false ts with
    | some path => .ok path
    | none => .error (.wrongKind (Literal.kind atEnd (.tokens ts)) a.name)
  | .value l => .error (.wrongKind (l.kind atEnd) a.name)

/-- The draft with a setting that was read. -/
def put (d : SettingsDraft) (read : Except Fault α) (set : SettingsDraft → α → SettingsDraft) :
    SettingsDraft :=
  match read with
  | .ok value => set d value
  | .error f => d.blame f

/-- The draft with the value of a known setting. -/
def assign (d : SettingsDraft) (a : Argument) (atEnd : Bool) : SettingsDraft :=
  if a.name = "table" then d.put (readText a atEnd) fun d s => { d with table? := some s }
  else if a.name = "schema" then d.put (readText a atEnd) fun d s => { d with schema? := some s }
  else if a.name = "quoted" then d.put (readFlag a atEnd) fun d b => { d with quoted := b }
  else if a.name = "example" then d.put (readFlag a atEnd) fun d b => { d with isExample := b }
  else if a.name = "embeddable" then
    d.put (readFlag a atEnd) fun d b => { d with embeddable := b }
  else d.put (readPath a atEnd) fun d ts => { d with keyClass? := some ts }

/-- The draft after one argument, which may be the last of its attribute. -/
def step (d : SettingsDraft) (a : Argument) (atEnd : Bool) : SettingsDraft :=
  if a.name ∉ Fault.settingNames then d.blame (.unknownSetting a.name)
  else if a.name ∈ d.met then d.blame (.repeatedSetting a.name)
  else { d with met := a.name :: d.met }.assign a atEnd

/-- The draft after the arguments of an attribute. -/
def stepAll (d : SettingsDraft) : List Argument → SettingsDraft
  | [] => d
  | a :: rest => (d.step a rest.isEmpty).stepAll rest

/-- Whether the value of an argument is a path whose arguments follow its names at once, so that
their brackets are read as comparisons. -/
def comparesTwice (a : Argument) : Bool :=
  match a.form with
  | .value (.tokens ts) => (readPath? false ts).isNone && (readPath? true ts).isSome
  | _ => false

/-- The draft after one attribute. -/
def read (d : SettingsDraft) (a : Attribute) : SettingsDraft :=
  if a.name = "entity" then
    match a.form with
    | .bare => d
    | .value _ => d.blame .valueOnEntity
    | .list arguments =>
      if arguments.any comparesTwice then d.blame .chainedComparison else d.stepAll arguments
  else d

end SettingsDraft

/-- The fault of a declaration that is not of named fields. -/
def shapeFault? (t : TypeDeclaration) : Option Fault :=
  match t.shape with
  | .named => none
  | .unnamed =>
    some (.wrongShape (if t.fields.length = 1 then "one unnamed field" else "unnamed fields")
      "named fields")
  | .unit => some (.wrongShape "no fields" "named fields")
  | .choice => some (.wrongShape "enum" "struct with named fields")
  | .union => some (.wrongShape "union" "struct with named fields")

/-- The settings of an entity, or the faults of its settings and its shape. -/
def readSettings (t : TypeDeclaration) : Checked SettingsDraft :=
  let d := t.attributes.foldl SettingsDraft.read .start
  let faults := d.faults ++ (shapeFault? t).toList
  if faults.isEmpty then .ok d else .error faults

/-! ## Entities -/

/-- What a declaration says about an entity. -/
structure EntityPlan where
  name : String
  visibility : Tokens
  generics : Tokens
  bounds : Tokens
  table : String
  schema? : Option String
  quoted : Bool
  isExample : Bool
  embeddable : Bool
  keyClass? : Option Tokens
  generators : List SequenceGenerator
  fields : List FieldPlan
deriving DecidableEq, Repr

/-- The plans of the fields that have none of their own faults, transient ones left out. -/
def plannedFields : List (Checked FieldPlan) → List FieldPlan
  | [] => []
  | .ok f :: rest => if f.transient then plannedFields rest else f :: plannedFields rest
  | .error _ :: rest => plannedFields rest

/-- The faults among results. -/
def faultsOf : Checked α → List Fault
  | .ok _ => []
  | .error faults => faults

/-- The broken rules on the ids of fields. -/
def idFaults (fields : List FieldPlan) (hasKeyClass : Bool) : List Fault :=
  let ids := fields.countP (·.role == .id)
  let embeddedIds := fields.countP (·.role == .embeddedId)
  (if 1 < embeddedIds then [Fault.severalEmbeddedIds] else []) ++
    (if 0 < embeddedIds ∧ 0 < ids then [Fault.embeddedIdWithId] else []) ++
    (if hasKeyClass ∧ ids < 2 then [Fault.keyClassWithoutIds] else [])

namespace EntityPlan

/-- The plan of an entity, or all faults of its declaration. -/
def ofDeclaration (t : TypeDeclaration) : Checked EntityPlan := do
  let settings ← readSettings t
  let checked := t.fields.map FieldPlan.ofDeclaration
  let fields := plannedFields checked
  let generators := (readGenerators t.attributes).mapError fun f => [f]
  let faults :=
    checked.flatMap faultsOf ++ faultsOf generators ++ idFaults fields settings.keyClass?.isSome
  if faults.isEmpty then
    return {
      name := t.name
      visibility := t.visibility
      generics := t.generics
      bounds := t.bounds
      table := settings.table?.getD (Text.snake t.name)
      schema? := settings.schema?
      quoted := settings.quoted
      isExample := settings.isExample
      embeddable := settings.embeddable
      keyClass? := settings.keyClass?
      generators := generators.toOption.getD []
      fields }
  else .error faults

/-- The name of the type of example objects. -/
def exampleName (p : EntityPlan) : String := p.name ++ "Example"

/-- The embedded fields. -/
def embeddedFields (p : EntityPlan) : List FieldPlan := p.fields.filter (·.isEmbedded)

end EntityPlan

end EntityMapping.Declaration
