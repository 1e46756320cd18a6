import EntityMapping.Declaration.Grammar

/-!
# Heads of declarations

The generic parameters, the where clause and the visibility of a declaration, as an
implementation repeats them.  Parameters stand with their bounds where they are introduced and
as bare names where they are used, lifetimes first and without defaults.

Definitions:

- `introducedParameters`, `usedParameters`: the parameters at the head of an implementation and
  behind the name of its type.
- `whereClause`, `visibilityTokens`: what is repeated as it is spelled.
-/

namespace EntityMapping.Declaration

namespace Scribe

/-! ## Parameters -/

/-- The bounds of a parameter after a colon, which is left out if there are none. -/
def parameterBounds (g : Grammar) : Scribe Unit := do
  if ← sees (seesMark ":") then
    drop ":"
    if ← sees seesBound then
      write (.mark ":")
      let _ ← bounds g ⟨false, true⟩ true

/-- The default of a parameter, which is left out. -/
def parameterDefault (g : Grammar) : Scribe Unit := do
  let _ ← aside do
    if ← mark? "=" then
      if ← sees seesConstant then constant g else g.read (.type true)

/-- A generic parameter: whether it is a lifetime, and its name. -/
def parameter (g : Grammar) : Scribe (Bool × Token) := do
  attributes g
  let isConstant ← word? "const"
  match ← rest with
  | [] => failure
  | t :: ts =>
    let isLifetime := seesLifetime (t :: ts)
    if isLifetime || t = .name "_" then copy else name
    if isConstant then
      mark ":"
      g.read (.type true)
    else parameterBounds g
    parameterDefault g
    return (isLifetime, t)

/-- The generic parameters in angle brackets, each as it is introduced and with its name. -/
def parameters (g : Grammar) : Scribe (List (Listed × Token)) := do
  drop "<"
  let items ← listedItems (parameter g) ((← rest).length + 1)
  drop ">"
  return items

/-! ## Where clauses -/

/-- What is asked of a type or of a lifetime. -/
def predicate (g : Grammar) : Scribe Unit := do
  if ← sees seesLifetime then copy
  else
    boundLifetimes? g
    g.read (.type true)
  mark ":"
  if ← sees seesBound then
    let _ ← bounds g ⟨false, true⟩ true

/-- A where clause. -/
def predicates (g : Grammar) : Scribe Unit := do
  word "where"
  commaList seesEnd (predicate g)

/-! ## Visibility -/

/-- Who sees a declaration. -/
def visibility : Scribe Unit := do
  word "pub"
  if ← sees (seesOpening .round) then
    enclosed .round do
      if ← word? "in" then plainPath else anyName

end Scribe

/-! ## Lists of parameters -/

/-- The generic parameters that tokens declare. -/
def genericParameters (ts : Tokens) : List (Scribe.Listed × Token) :=
  match Scribe.complete? (Scribe.parameters (Scribe.grammarFor ts)) ts with
  | some (items, _) => items
  | none => []

/-- Items in angle brackets, unless there are none. -/
def angledUnlessEmpty (items : List Scribe.Listed) : Tokens :=
  if items.isEmpty then [] else .mark "<" :: Scribe.arranged items ++ [.mark ">"]

/-- The parameters where an implementation introduces them. -/
def introducedParameters (ps : List (Scribe.Listed × Token)) : Tokens :=
  angledUnlessEmpty (ps.map (·.1))

/-- The parameters where an implementation uses them. -/
def usedParameters (ps : List (Scribe.Listed × Token)) : Tokens :=
  angledUnlessEmpty (ps.map fun p => { p.1 with tokens := [p.2] })

/-! ## Clauses -/

/-- The tokens as a scribe writes them, or as they stand if it cannot read them. -/
def spelledOr (s : Scribe Unit) (ts : Tokens) : Tokens :=
  ((Scribe.complete? s ts).map (·.2)).getD ts

/-- The where clause, unless it is empty. -/
def whereClause : Tokens → Tokens
  | [] => []
  | [_] => []
  | ts => spelledOr (Scribe.predicates (Scribe.grammarFor ts)) ts

/-- Who sees a declaration, as written. -/
def visibilityTokens (ts : Tokens) : Tokens := spelledOr Scribe.visibility ts

/-! ## Laws -/

end EntityMapping.Declaration
