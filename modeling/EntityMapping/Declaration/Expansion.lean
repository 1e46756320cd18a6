import EntityMapping.Declaration.Generics
import EntityMapping.Declaration.Spelling

/-!
# Expansions

The code that a declaration stands for: the implementation that builds its entity and
registers the types it embeds, and the companion type of an example entity.  A faulty
declaration stands for one error of the compiler for each of its faults.

Main results:

- `expand_of_plan`: what a declaration without faults expands to.
-/

namespace EntityMapping.Declaration

/-- The function that builds the entity. -/
def entityFunction (c : EntityChain) : Tokens :=
  .name "fn" :: call [.name "persistent_entity"] [] ++
    .mark "->" :: libraryPath ["PersistentEntity"] ++ braced c.tokens

/-- The registration of one embedded type. -/
def registration (type : Tokens) : Tokens :=
  .name "context" :: .mark "." ::
    call (.name "register" :: .mark "::" :: .mark "<" :: type ++ [.mark ">"]) [] ++ [.mark ";"]

/-- The function that registers the embedded types, unless there are none. -/
def registerFunction (types : List Tokens) : Tokens :=
  if types.isEmpty then []
  else
    .name "fn" ::
        call [.name "register_embedded"]
          [.name "context" :: .mark ":" :: .mark "&" :: .name "mut" ::
            libraryPath ["MappingContext"]] ++
      braced (types.flatMap registration)

/-- The companion type of an example entity. -/
def companionType (p : EntityPlan) : Tokens :=
  if p.isExample then
    .mark "#" ::
        bracketed
          [.name "doc", .mark "=", .text ("Example companion of [`" ++ p.name ++ "`].")] ++
      visibilityTokens p.visibility ++
      .name "type" :: .name p.exampleName :: .mark "=" :: libraryPath ["Example"] ++ [.mark ";"]
  else []

/-- The code of a planned entity. -/
def EntityPlan.tokens (p : EntityPlan) : Tokens :=
  let parameters := genericParameters p.generics
  .name "impl" :: introducedParameters parameters ++ libraryPath ["Persistent"] ++
    .name "for" :: .name p.name :: usedParameters parameters ++ whereClause p.bounds ++
    braced (entityFunction p.chain ++ registerFunction (p.embeddedFields.map (·.type))) ++
    companionType p

/-- The code of a fault. -/
def Fault.tokens (f : Fault) : Tokens :=
  rooted ["core", "compile_error"] ++ .mark "!" :: braced [.text f.message]

/-- The code that a declaration stands for. -/
def expand (t : TypeDeclaration) : Tokens :=
  match EntityPlan.ofDeclaration t with
  | .ok plan => plan.tokens
  | .error faults => faults.flatMap Fault.tokens

/-- A declaration without faults stands for the code of its plan. -/
theorem expand_of_plan {t : TypeDeclaration} {p : EntityPlan}
    (h : EntityPlan.ofDeclaration t = .ok p) : expand t = p.tokens := by
  simp [expand, h]

end EntityMapping.Declaration
