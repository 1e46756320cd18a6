import EntityMapping.Declaration.Registration
import EntityMapping.Generation.Basic

/-!
# Sample declarations

A small shop as a module of declarations: users with generated keys and example queries,
order lines with an embedded key and an embedded address, pairs with a composite key, and
audit entries, with a repository for each.

Definitions:

- `Samples.types`: the declarations of the shop.
- `Samples.repository?`: a repository of the shop with its catalog.
-/

namespace EntityMapping.Declaration.Samples

/-! ## Builders -/

/-- An argument with a text. -/
def setting (name value : String) : Argument := ⟨name, .value (.text value)⟩

/-- An argument that is its name alone. -/
def flag (name : String) : Argument := ⟨name, .bare⟩

/-- An argument with a list of texts. -/
def listing (name : String) (values : List String) : Argument := ⟨name, .list (values.map .text)⟩

/-- An attribute that is its name alone. -/
def plain (name : String) : Attribute := ⟨name, .bare⟩

/-- An attribute with arguments. -/
def attributed (name : String) (arguments : List Argument) : Attribute := ⟨name, .list arguments⟩

/-- A type by its name. -/
def simple (name : String) : Tokens := [.name name]

/-- A type with one argument. -/
def applied (name argument : String) : Tokens :=
  [.name name, .mark "<", .name argument, .mark ">"]

/-- A field. -/
def field (name : String) (type : Tokens) (attributes : List Attribute) : FieldDeclaration :=
  ⟨name, type, attributes⟩

/-- A type with named fields. -/
def record (name : String) (attributes : List Attribute) (fields : List FieldDeclaration) :
    TypeDeclaration :=
  { name, attributes, fields
    visibility := []
    generics := []
    bounds := []
    shape := .named }

/-! ## Types -/

/-- A user with a generated key. -/
def user : TypeDeclaration :=
  record "User"
    [attributed "entity" [setting "table" "users", flag "example"],
      attributed "sequence_generator" [setting "name" "user_gen", setting "sequence" "users_seq"]]
    [field "id" (simple "i64")
        [plain "id",
          attributed "generated" [setting "strategy" "sequence", setting "generator" "user_gen"]],
      field "name" (simple "String")
        [attributed "condition" [setting "kind" "containing", setting "ignore_case" "always"]],
      field "age" (simple "i32")
        [attributed "condition"
          [setting "kind" "between", listing "properties" ["min_age", "max_age"]]],
      field "email" (applied "Option" "String") []]

/-- The key of an order line. -/
def lineKey : TypeDeclaration :=
  record "LineKey" [attributed "entity" [flag "embeddable"]]
    [field "order_id" (simple "i64") [], field "line_no" (simple "i32") []]

/-- An address. -/
def address : TypeDeclaration :=
  record "Address" [attributed "entity" [flag "embeddable"]]
    [field "city" (simple "String")
        [attributed "column" [setting "name" "addr_city", flag "quoted"]],
      field "zip" (applied "Option" "String") []]

/-- An order line with an embedded key. -/
def orderLine : TypeDeclaration :=
  record "OrderLine" [attributed "entity" [setting "schema" "shop", flag "quoted"]]
    [field "key" (simple "LineKey") [plain "embedded_id"],
      field "qty" (simple "i32")
        [attributed "condition" [setting "kind" "in"],
          attributed "condition"
            [setting "kind" "gte", setting "column" "qty + 1", listing "properties" ["min_qty"]]],
      field "ship_to" (simple "Address") [plain "embedded"],
      field "cache" (applied "Vec" "u8") [plain "transient"]]

/-- A pair with a composite key. -/
def pair : TypeDeclaration :=
  record "Pair" [attributed "entity" [setting "table" "pairs", setting "id_class" "PairKey"]]
    [field "left" (simple "i64") [plain "id"],
      field "right" (simple "i64")
        [plain "id", attributed "generated" [setting "strategy" "identity"]],
      field "label" (simple "String") [attributed "column" [setting "jdbc_type" "nvarchar"]]]

/-- An audit entry without any settings. -/
def auditEntry : TypeDeclaration :=
  record "AuditEntry" []
    [field "id" (simple "u64") [plain "id", plain "generated"],
      field "payload" (applied "Vec" "u8") [],
      field "at" (applied "Option" "f64")
        [attributed "condition" [setting "kind" "is_not_null"]]]

/-- The types of the shop. -/
def types : List TypeDeclaration := [user, lineKey, address, orderLine, pair, auditEntry]

/-- The shop as a module at a path. -/
def shop (path : String) : Module := ⟨path, types⟩

/-! ## Repositories -/

/-- The repositories of the shop, each with its entity and whether it declares example
queries. -/
def repositories : List (String × String × Bool) :=
  [("UserRepository", "User", true), ("OrderLineRepository", "OrderLine", false),
    ("PairRepository", "Pair", false), ("AuditRepository", "AuditEntry", false),
    ("AuditExampleRepository", "AuditEntry", true)]

/-- A repository of the shop together with the catalog of its entity. -/
def repository? (path name : String) : Option (Repository × Catalog) :=
  (repositories.find? (·.1 == name)).map fun (_, entity, exampleQuery) =>
    let m := shop path
    (⟨m.qualified name, m.qualified entity, exampleQuery⟩, m.registerNamed .empty entity)

end EntityMapping.Declaration.Samples
