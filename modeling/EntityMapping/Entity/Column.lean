import EntityMapping.Dialect
import EntityMapping.Entity.JdbcType

/-!
# Columns

Database identifiers, kept as written and quoted only when they are rendered, and columns.

Main results:

- `Identifier.render_of_not_quoted`: an identifier that is not quoted is rendered as written.
-/

namespace EntityMapping

/-- A database identifier. -/
structure Identifier where
  text : String
  quoted : Bool
deriving DecidableEq, Repr

namespace Identifier

/-- An identifier rendered as written. -/
def plain (text : String) : Identifier := ⟨text, false⟩

/-- The name under which the database knows the identifier: it folds what is not quoted. -/
def canonical (i : Identifier) : String :=
  if i.quoted then i.text else Text.lower i.text

/-- The identifier as SQL text. -/
def render (i : Identifier) (d : Dialect) : String :=
  if i.quoted then d.quote i.text else i.text

/-- No dialect quotes a name that is not to be quoted. -/
theorem render_of_not_quoted {i : Identifier} (h : i.quoted = false) (d : Dialect) :
    i.render d = i.text := by
  simp [render, h]

end Identifier

/-- A column: its name and type. -/
structure Column where
  name : Identifier
  type : JdbcType
deriving DecidableEq, Repr

end EntityMapping
