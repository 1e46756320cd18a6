import EntityMapping.Template.Printer

/-!
# Statements

A statement of the mapper language: an element with attributes around a template.

Main results:

- `StatementKind.isModifying_isExecutable`: what changes rows is executed.
-/

namespace EntityMapping

/-! ## Kinds -/

/-- The kinds of statements. -/
inductive StatementKind
  | resultMap
  | sql
  | select
  | insert
  | update
  | delete
deriving DecidableEq, Repr

namespace StatementKind

/-- The name of the element. -/
def element : StatementKind → String
  | resultMap => "resultMap"
  | sql => "sql"
  | select => "select"
  | insert => "insert"
  | update => "update"
  | delete => "delete"

/-- The kind with an element name. -/
def ofElement? (name : String) : Option StatementKind :=
  [resultMap, sql, select, insert, update, delete].find? (·.element == name)

/-- Whether statements of the kind are executed. -/
def isExecutable : StatementKind → Bool
  | resultMap => false
  | sql => false
  | _ => true

/-- Whether statements of the kind change rows. -/
def isModifying : StatementKind → Bool
  | insert => true
  | update => true
  | delete => true
  | _ => false

/-- What modifies is executed. -/
theorem isModifying_isExecutable {k : StatementKind} (h : k.isModifying = true) :
    k.isExecutable = true := by
  cases k <;> simp_all [isModifying, isExecutable]

end StatementKind

/-! ## Statements -/

/-- Where an insertion puts the key of the new row, and when it is made. -/
structure KeyInfo where
  property : String
  column : String
  generated : Bool
  timing? : Option KeyTiming
deriving DecidableEq, Repr

/-- A statement. -/
structure Statement where
  namespaceName : String
  id : String
  kind : StatementKind
  parameterType? : Option String
  resultType? : Option String
  resultMap? : Option String
  key? : Option KeyInfo
  body : Template
deriving DecidableEq, Repr

namespace Statement

/-- A statement with a body and nothing else. -/
def plain (kind : StatementKind) (namespaceName id : String) (body : Template) : Statement :=
  { namespaceName, id, kind, body
    parameterType? := none
    resultType? := none
    resultMap? := none
    key? := none }

/-- The id together with its namespace. -/
def qualifiedId (s : Statement) : String := s.namespaceName ++ "." ++ s.id

/-- The attributes of a key. -/
def keyAttributes : Option KeyInfo → String
  | some key =>
    Xml.printAttribute "keyProperty" key.property ++ Xml.printAttribute "keyColumn" key.column ++
      Xml.printAttribute "useGeneratedKeys" (if key.generated then "true" else "false")
  | none => ""

/-- The attributes of a statement.  A result map gives its type directly after its id. -/
def attributes (s : Statement) : String :=
  Xml.printAttribute "id" s.id ++
    (if s.kind = .resultMap then Xml.printAttribute? "type" s.resultType? else "") ++
    Xml.printAttribute? "parameterType" s.parameterType? ++
    keyAttributes s.key? ++
    (if s.kind = .resultMap then "" else Xml.printAttribute? "resultType" s.resultType?) ++
    Xml.printAttribute? "resultMap" s.resultMap?

/-- The statement as an element. -/
def render (s : Statement) : String :=
  "<" ++ s.kind.element ++ s.attributes ++ ">" ++ s.body.print ++ "</" ++ s.kind.element ++ ">"

@[simp]
theorem plain_kind (kind : StatementKind) (ns id : String) (body : Template) :
    (plain kind ns id body).kind = kind := rfl

@[simp]
theorem plain_id (kind : StatementKind) (ns id : String) (body : Template) :
    (plain kind ns id body).id = id := rfl

end Statement

end EntityMapping
