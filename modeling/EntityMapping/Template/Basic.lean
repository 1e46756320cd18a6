import EntityMapping.Entity.JdbcType

/-!
# Statement templates

The body of a statement is SQL text with bound values and elements of the mapper language:
guards, loops, trimmed parts, alternatives and bindings.  A template is a sequence of such
pieces, joined in pairs.

Definitions:

- `Template`: the pieces and how they nest.
- `Template.concat`, `Template.join`: templates in sequence.
-/

namespace EntityMapping

/-- When the key of a new row is selected. -/
inductive KeyTiming
  | before
  | after
deriving DecidableEq, Repr

/-- The name in upper case. -/
def KeyTiming.name : KeyTiming → String
  | .before => "BEFORE"
  | .after => "AFTER"

/-- The condition of a guard: that values are not null, or that a value is true. -/
inductive Test
  | notNull (paths : List String)
  | holds (path : String)
deriving DecidableEq, Repr

/-- A setting of a loop: what it runs over, the names it binds, and the text around and
between its rounds. -/
inductive LoopSetting
  | collection
  | item
  | index
  | opening
  | separator
  | closing
deriving DecidableEq, Repr

/-- A setting of a trimmed part: the text put around it, and the ends taken off before. -/
inductive TrimSetting
  | front
  | back
  | frontDropped
  | backDropped
deriving DecidableEq, Repr

/-- A value bound to a name: a search value between wildcards, or a map from paths to column
names. -/
inductive Binding
  | pattern (leading : Bool) (path : String) (trailing : Bool)
  | columns (entries : List (String × String))
deriving DecidableEq, Repr

/-- A template of statement text. -/
inductive Template
  | empty
  | append (first second : Template)
  | text (sql : String)
  | cdata (sql : String)
  | value (path : String) (type? : Option JdbcType)
  | splice (path : String)
  | guard (test : Test) (body : Template)
  | loop (settings : List (LoopSetting × String)) (body : Template)
  | trim (settings : List (TrimSetting × String)) (body : Template)
  | whereClause (body : Template)
  | setClause (body : Template)
  | choose (branches : Template)
  | branch (test : Test) (body : Template)
  | bind (name : String) (binding : Binding)
  | fragment (id : String)
  | selectKey (property column : String) (timing : KeyTiming) (typeName : String)
      (body : Template)
  | result (isKey : Bool) (property column : String) (type : JdbcType)
  | association (property : String) (body : Template)
deriving DecidableEq, Repr

namespace Template

instance : Append Template := ⟨append⟩

/-- Templates one after the other. -/
def concat : List Template → Template
  | [] => empty
  | t :: rest => t ++ concat rest

/-- Templates one after the other, with a text between them. -/
def join (separator : String) : List Template → Template
  | [] => empty
  | [t] => t
  | t :: rest => t ++ text separator ++ join separator rest

end Template

end EntityMapping
