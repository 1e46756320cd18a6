import EntityMapping.Declaration.Phrase.Path

/-!
# Types

The rules for types and for arguments in angle brackets.  Of a type its shape is kept.

Definitions:

- `Scribe.type`: a type.
- `Scribe.arguments`: arguments in angle brackets, written with lifetimes first.
-/

namespace EntityMapping.Declaration

namespace Scribe

/-! ## Sums of bounds -/

/-- The bounds of a type that is a sum of bounds, not all of them lifetimes. -/
def traitBounds (g : Grammar) (rules : BoundRules) (sums : Bool) : Scribe Unit := do
  if !(← bounds g rules sums) then failure

/-- The bounds after the first one of a sum. -/
def furtherBounds (g : Grammar) : Scribe Unit := do
  if ← mark? "+" then
    if ← sees seesBound then
      let _ ← bounds g ⟨false, false⟩ true

/-- A type that begins with a path: the type that it names, a macro, or a sum of bounds. -/
def pathType (g : Grammar) (sums : Bool) (r : PathReading) : Scribe TypeShape := do
  let ts ← rest
  if r.isPlain && seesMark "!" ts && !seesMark "!=" ts then
    mark "!"
    copyGroup
    return .other
  else if sums && seesMark "+" ts then
    furtherBounds g
    return .other
  else return r.shape

/-! ## Brackets -/

/-- Whether a type in brackets may begin a sum of bounds. -/
inductive SumStart
  | never
  | ifAllowed
  | always

/-- The content of a type in round brackets. -/
def roundContent (g : Grammar) : Scribe SumStart := do
  let ts ← rest
  if seesEnd ts then return .never
  else if seesMark "?" ts then
    let _ ← traitBound g
    return .always
  else
    let found ← g (.type true)
    if ← mark? "," then
      commaList seesEnd (g.read (.type true))
      return .never
    else
      match found with
      | .type (.named _) => return .ifAllowed
      | .type (.applied _ _) => return .ifAllowed
      | _ => return if seesWord "for" ts then .ifAllowed else .never

/-- A type in round brackets: a tuple, a type by itself, or the first of a sum of bounds. -/
def roundType (g : Grammar) (sums : Bool) : Scribe TypeShape := do
  match ← enclosed .round (roundContent g) with
  | .never => pure ()
  | .ifAllowed => if sums then furtherBounds g
  | .always => furtherBounds g
  return .other

/-- An array or a slice. -/
def squareType (g : Grammar) : Scribe TypeShape := do
  enclosed .square do
    g.read (.type true)
    if ← mark? ";" then g.read (.expression true)
  return .other

/-! ## Functions -/

/-- Whether the tokens begin with the name of an argument and a colon. -/
def seesArgumentName (ts : Tokens) : Bool :=
  (seesName ts || seesOneOf ["_", "self"] ts) && seesMark ":" (ts.drop 1) &&
    !seesMark "::" (ts.drop 1)

/-- An argument of a function type. -/
def functionArgument (g : Grammar) : Scribe Unit := do
  attributes g
  if ← sees seesArgumentName then
    copy
    mark ":"
  if ← mark? "..." then pure () else g.read (.type true)

/-- A function type after the lifetimes that are declared for it. -/
def functionType (g : Grammar) : Scribe TypeShape := do
  let _ ← word? "unsafe"
  if ← word? "extern" then
    if ← sees seesLiteral then literal
  word "fn"
  enclosed .round (commaList seesEnd (functionArgument g))
  output g
  return .other

/-! ## Types -/

/-- Whether the tokens begin with a function type. -/
def seesFunction (ts : Tokens) : Bool := seesOneOf ["fn", "unsafe", "extern"] ts

/-- Whether the tokens begin with a built-in. -/
def seesBuiltin (ts : Tokens) : Bool := seesWord "builtin" ts && seesMark "#" (ts.drop 1)

/-- A built-in with its arguments. -/
def builtinCall : Scribe Unit := verbatim do
  copy
  copy
  name
  copyGroup

/-- A type. -/
def type (g : Grammar) (sums : Bool) : Scribe TypeShape := do
  let ts ← rest
  if seesWord "for" ts then
    boundLifetimes g
    if ← sees seesFunction then functionType g
    else
      let r ← path g true
      let _ ← callable g r
      if sums then furtherBounds g
      return .other
  else if seesOpening .round ts then roundType g sums
  else if seesFunction ts then functionType g
  else if seesBuiltin ts then
    builtinCall
    return .other
  else if seesPath ts then
    let isQualified := seesMark "<" ts
    let r ← qualifiedPath g true
    let r ← callable g r
    if isQualified then return r.shape else pathType g sums r
  else if seesWord "dyn" ts then
    verbatimIf do
      copy
      let asItStands ← mark? "*"
      traitBounds g ⟨false, true⟩ sums
      return asItStands
    return .other
  else if seesOpening .square ts then squareType g
  else if seesMark "*" ts then
    mark "*"
    if !(← word? "const") then word "mut"
    g.read (.type false)
    return .other
  else if seesMark "&" ts then
    mark "&"
    if ← sees seesLifetime then copy
    let _ ← word? "mut"
    match ← g (.type false) with
    | .type target => return .reference target
    | _ => failure
  else if seesMark "!" ts then
    mark "!"
    return .other
  else if seesWord "impl" ts then
    copy
    traitBounds g ⟨true, true⟩ sums
    return .other
  else if seesWord "_" ts then
    copy
    return .other
  else if seesLifetime ts then
    traitBounds g ⟨false, true⟩ true
    return .other
  else failure

/-! ## Arguments -/

/-- Whether the tokens begin with a constant argument. -/
def seesConstant (ts : Tokens) : Bool := seesLiteral ts || seesOpening .curly ts

/-- A constant as an argument. -/
def constant (g : Grammar) : Scribe Unit := do
  if ← sees seesLiteral then literal else g.read .block

/-- Whether the tokens begin with a lifetime that begins no sum of bounds. -/
def seesLoneLifetime : Tokens → Bool
  | .lifetime _ :: rest => !seesMark "+" rest
  | _ => false

/-- An argument that begins with a path: a type, or something that is said of an associated
item. -/
def pathArgument (g : Grammar) : Scribe Finding := do
  let r ← path g true
  if r.isSingle && !(← sees (seesOpening .round)) then
    if ← mark? "=" then
      if ← sees seesConstant then constant g else g.read (.type true)
      return .nothing
    else if (← sees (seesMark ":")) && !(← sees (seesMark "::")) then
      mark ":"
      if ← sees seesBound then
        let _ ← bounds g ⟨false, true⟩ true
      return .nothing
  let r ← callable g r
  return .type (← pathType g true r)

/-- An argument in angle brackets: whether it is a lifetime, and its shape if it is a type. -/
def argument (g : Grammar) : Scribe (Bool × Finding) := do
  let ts ← rest
  if seesLoneLifetime ts then
    copy
    return (true, .nothing)
  else if seesConstant ts then
    constant g
    return (false, .nothing)
  else if seesName ts && !seesBuiltin ts then return (false, ← pathArgument g)
  else if seesWord "Self" ts then return (false, ← pathArgument g)
  else return (false, ← g (.type true))

/-- Arguments in angle brackets, written with lifetimes first, giving what is kept of the
first one. -/
def arguments (g : Grammar) : Scribe Finding := do
  let found ← angled (argument g)
  return found.head?.getD .nothing

end Scribe

end EntityMapping.Declaration
