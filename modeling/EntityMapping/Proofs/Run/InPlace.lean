import EntityMapping.Generation.Run

/-!
# Runs on a shared registry

A registry is shared: every step looks at it as it is at that time, and what was registered
stays when a later step fails.  A run on such a registry is the same as a run on its value,
because all statements are built before the first is registered.

Main results:

- `Generator.runInPlace_eq`: a run in place registers what a run registers, and after a
  failure leaves the registry as it was.
-/

namespace EntityMapping.Generator

/-- The statements of names, in order, each built from the registry as it is. -/
def buildInPlace (g : Generator) :
    List StatementName → EStateM MappingError Registry (List Statement)
  | [] => return []
  | name :: rest => do
    let statement? ← ofExcept (g.build (← get) name)
    let others ← g.buildInPlace rest
    return statement?.toList ++ others

/-- Register statements in order, and list those that were registered. -/
def registerInPlace : List Statement → EStateM MappingError Registry (List Statement)
  | [] => return []
  | s :: rest => do
    let inserted ← modifyGet (·.register s)
    let others ← registerInPlace rest
    return if inserted then s :: others else others

/-- Build all statements and register them in the shared registry. -/
def runInPlace (g : Generator) : EStateM MappingError Registry Outcome := do
  let built ← g.buildInPlace StatementName.all
  let registered ← registerInPlace built
  return ⟨g.repository.namespaceName, registered⟩

/-- Building leaves the registry alone. -/
theorem buildInPlace_eq (g : Generator) (names : List StatementName) (r : Registry) :
    g.buildInPlace names r =
      match g.buildAll r names with
      | .ok built => .ok built r
      | .error e => .error e r := by
  induction names with
  | nil => rfl
  | cons name rest ih =>
    have hget : (EStateM.get : EStateM MappingError Registry Registry) r = .ok r r := rfl
    simp only [buildInPlace, buildAll, bind, EStateM.bind, Except.bind, get, getThe,
      MonadStateOf.get, hget]
    cases g.build r name with
    | error e => rfl
    | ok statement? =>
      simp only [ofExcept, pure, EStateM.pure, ih]
      cases g.buildAll r rest <;> rfl

/-- Registering statements one by one never fails. -/
theorem registerInPlace_eq (ss : List Statement) (r : Registry) :
    registerInPlace ss r = .ok (r.registerAll ss).1 (r.registerAll ss).2 := by
  induction ss generalizing r with
  | nil => rfl
  | cons s rest ih =>
    have hmodify : (EStateM.modifyGet (·.register s) : EStateM MappingError Registry Bool) r =
        .ok (r.register s).1 (r.register s).2 := rfl
    simp only [registerInPlace, bind, EStateM.bind, modifyGet, MonadStateOf.modifyGet, hmodify, ih]
    rfl

/-- A run in place registers what a run registers, and after a failure leaves the registry as
it was. -/
theorem runInPlace_eq (g : Generator) (r : Registry) :
    g.runInPlace r =
      match g.run r with
      | .ok (o, after) => .ok o after
      | .error e => .error e r := by
  simp only [runInPlace, run, bind, EStateM.bind, Except.bind, buildInPlace_eq]
  cases g.buildAll r StatementName.all with
  | error e => rfl
  | ok built =>
    simp only [registerInPlace_eq]
    rfl

end EntityMapping.Generator
