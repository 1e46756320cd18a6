import EntityMapping.Declaration.Chain
import EntityMapping.Entity.Catalog

/-!
# Registration of declared types

The entities of a module of declarations, put into a catalog.  A type is registered after
the types that it embeds, under its full name.

Definitions:

- `Module.fullName`: the name under which a type is registered.
- `Module.register`, `Module.registerTypes`: the catalog with types and what they embed.
-/

namespace EntityMapping.Declaration

/-- The types of the standard library under the names by which declarations know them. -/
def standardTypes : List (String × String) :=
  [("String", "alloc::string::String"), ("Option", "core::option::Option"),
    ("Vec", "alloc::vec::Vec")]

/-- The types that are their own full names. -/
def primitiveTypes : List String :=
  ["bool", "char", "str", "f32", "f64", "i8", "i16", "i32", "i64", "i128", "isize", "u8", "u16",
    "u32", "u64", "u128", "usize"]

/-- A module: its path and the types it declares. -/
structure Module where
  path : String
  types : List TypeDeclaration

namespace Module

/-- The full name of a type that the module declares. -/
def qualified (m : Module) (name : String) : String := m.path ++ "::" ++ name

/-- The full name of a type that has a simple name in the module. -/
def fullNameOf (m : Module) (name : String) : String :=
  match (standardTypes.find? (·.1 == name)).map (·.2) with
  | some full => full
  | none => if name ∈ primitiveTypes then name else m.qualified name

/-- A token of a type by its full name. -/
def fullToken (m : Module) : Token → String
  | .name name => m.fullNameOf name
  | .mark "," => ", "
  | t => t.print

/-- The full name of a type. -/
def fullName (m : Module) (type : Tokens) : String := String.join (type.map m.fullToken)

/-- How names are known in the module, seen from one of its types. -/
def naming (m : Module) (self : String) : Naming :=
  { fullName := m.fullName
    selfName := m.qualified self
    modulePath := m.path }

/-- The declaration of a type of the module. -/
def declared? (m : Module) (type : Tokens) : Option TypeDeclaration :=
  m.types.find? fun t => [.name t.name] == type

mutual

/-- The catalog with a type and what it embeds; `fuel` bounds the depth of embedding. -/
def register (m : Module) : Nat → Catalog → Tokens → Catalog
  | 0, c, _ => c
  | fuel + 1, c, type =>
    match m.declared? type with
    | none => c
    | some t =>
      match EntityPlan.ofDeclaration t with
      | .error _ => c
      | .ok plan =>
        let c := m.registerTypes fuel c (plan.embeddedFields.map (·.type))
        c.add (plan.chain.build (m.naming t.name))

/-- The catalog with types and what they embed, one after the other. -/
def registerTypes (m : Module) : Nat → Catalog → List Tokens → Catalog
  | _, c, [] => c
  | fuel, c, type :: rest => m.registerTypes fuel (m.register fuel c type) rest

end

/-- The catalog with a type of the module and what it embeds. -/
def registerNamed (m : Module) (c : Catalog) (name : String) : Catalog :=
  m.register (m.types.length + 1) c [.name name]

end Module

end EntityMapping.Declaration
