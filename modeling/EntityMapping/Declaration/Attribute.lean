import EntityMapping.Declaration.Token

/-!
# Attributed declarations

A declaration of a type with fields, as it is written: attributes with arguments, the fields
with their types, generic parameters and visibility.

Definitions:

- `Literal`, `Argument`, `Attribute`: what attributes consist of.
- `FieldDeclaration`, `TypeDeclaration`: what carries attributes.
-/

namespace EntityMapping.Declaration

/-- A value in an attribute: a text, a number, a truth value, or tokens of the language such
as a path. -/
inductive Literal
  | text (value : String)
  | integer (negative : Bool)
  | float (negative : Bool)
  | bool (value : Bool)
  | tokens (spelling : Tokens)
deriving DecidableEq, Repr

/-- The word by which messages call the kind of a constant that is neither a text nor a
number. -/
def constantKind (s : String) : String :=
  match s.toList with
  | 'b' :: '\'' :: _ => "byte"
  | 'b' :: _ => "byte string"
  | 'c' :: _ => "unknown"
  | _ => "char"

/-- The word by which messages call the kind of a value.  A sign belongs to its number only at
the end of an attribute; elsewhere it is an operator. -/
def Literal.kind (atEnd : Bool) : Literal → String
  | text _ => "string"
  | integer negative => if negative && !atEnd then "unary" else "int"
  | float negative => if negative && !atEnd then "unary" else "float"
  | bool _ => "bool"
  | tokens [.constant s] => constantKind s
  | tokens _ => "path"

/-- The form of an argument: its name alone, with a value, or with a list of values. -/
inductive ArgumentForm
  | bare
  | value (literal : Literal)
  | list (literals : List Literal)
deriving DecidableEq, Repr

/-- An argument of an attribute. -/
structure Argument where
  name : String
  form : ArgumentForm
deriving DecidableEq, Repr

/-- The form of an attribute: its name alone, with a value, or with a list of arguments. -/
inductive AttributeForm
  | bare
  | value (literal : Literal)
  | list (arguments : List Argument)
deriving DecidableEq, Repr

/-- An attribute. -/
structure Attribute where
  name : String
  form : AttributeForm
deriving DecidableEq, Repr

/-- The arguments of an attribute; one that is no list has none. -/
def Attribute.arguments (a : Attribute) : List Argument :=
  match a.form with
  | .list arguments => arguments
  | _ => []

/-- A field with its type. -/
structure FieldDeclaration where
  name : String
  type : Tokens
  attributes : List Attribute
deriving DecidableEq, Repr

/-- The shape of a declared type. -/
inductive Shape
  | named
  | unnamed
  | unit
  | choice
  | union
deriving DecidableEq, Repr

/-- A declared type. -/
structure TypeDeclaration where
  name : String
  visibility : Tokens
  generics : Tokens
  bounds : Tokens
  shape : Shape
  attributes : List Attribute
  fields : List FieldDeclaration
deriving DecidableEq, Repr

end EntityMapping.Declaration
