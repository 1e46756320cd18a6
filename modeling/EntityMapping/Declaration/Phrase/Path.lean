import EntityMapping.Declaration.Phrase

/-!
# Paths and bounds

Paths with the arguments of their names, and the bounds that types are asked to keep.

Definitions:

- `Scribe.path`, `Scribe.qualifiedPath`: paths.
- `Scribe.callable`: the arguments of functions in types.
- `Scribe.bounds`: bounds joined by plus signs.
-/

namespace EntityMapping.Declaration

/-- What is known of a path that was read: the shape of the type that it names, whether it is a
single name with arguments in angle brackets at most, and whether it has no arguments. -/
structure PathReading where
  shape : TypeShape
  isSingle : Bool
  isPlain : Bool

/-- The shape of the type that a name with arguments names. -/
def TypeShape.ofName (name : String) : Option TypeShape → TypeShape
  | some argument => .applied name argument
  | none => .named name

namespace Scribe

/-- Whether the tokens begin with a path: a name, one of the words that stand for a place, a
path from the root or a qualified type. -/
def seesPath (ts : Tokens) : Bool :=
  seesName ts || seesOneOf ["self", "Self", "super", "crate"] ts || seesMark "::" ts ||
    seesMark "<" ts

/-- Whether the tokens begin with a path sign before an opening round bracket. -/
def seesCallSign (ts : Tokens) : Bool := seesMark "::" ts && seesOpening .round (ts.drop 2)

/-! ## Names with arguments -/

/-- Whether arguments in angle brackets follow a name: after a path sign anywhere, and at once
in the name of a type. -/
def seesArguments (inType : Bool) (ts : Tokens) : Bool :=
  (inType && seesMark "<" ts && !seesMark "<=" ts && !seesMark "<<=" ts) ||
    (seesMark "::" ts && seesMark "<" (ts.drop 2))

/-- A name of a path with its arguments, giving the shape that it names and whether it has no
arguments. -/
def pathName (g : Grammar) (inType : Bool) : Scribe (TypeShape × Bool) := do
  match ← rest with
  | .name w :: _ =>
    if ["super", "self", "crate", "try"].contains w then
      copy
      return (.named w, true)
    else
      if w = "Self" then copy else name
      if ← sees (seesArguments inType) then
        let _ ← mark? "::"
        let found ← g .arguments
        return (.ofName w found.shape?, false)
      else return (.named w, true)
  | _ => failure

/-- The names of a path, at most `n`; `plainBefore` tells that those before have no arguments. -/
def pathNames (g : Grammar) (inType : Bool) : Nat → Bool → Bool → Scribe PathReading
  | 0, _, _ => failure
  | n + 1, isSingle, plainBefore => do
    let (shape, isPlain) ← pathName g inType
    let ts ← rest
    if seesMark "::" ts && !seesCallSign ts then
      mark "::"
      pathNames g inType n false (plainBefore && isPlain)
    else return ⟨shape, isSingle, plainBefore && isPlain⟩

/-- A path, from the root or not. -/
def path (g : Grammar) (inType : Bool) : Scribe PathReading := do
  let fromRoot ← mark? "::"
  pathNames g inType ((← rest).length + 1) (!fromRoot) true

/-- A path, perhaps one that begins with a qualified type. -/
def qualifiedPath (g : Grammar) (inType : Bool) : Scribe PathReading := do
  if ← sees (seesMark "<") then
    mark "<"
    g.read (.type true)
    if ← word? "as" then
      let _ ← path g true
    mark ">"
    mark "::"
    let r ← pathNames g inType ((← rest).length + 1) false true
    return { r with isPlain := false }
  else path g inType

/-! ## Functions -/

/-- The result of a function, if it has one. -/
def output (g : Grammar) : Scribe Unit := do
  if ← mark? "->" then g.read (.type false)

/-- The types of arguments in round brackets and that of the result. -/
def callArguments (g : Grammar) : Scribe Unit := do
  enclosed .round (commaList seesEnd (g.read (.type true)))
  output g

/-- The path whose last name may have types in round brackets as its arguments. -/
def callable (g : Grammar) (r : PathReading) : Scribe PathReading := do
  let ts ← rest
  match r.shape with
  | .named _ =>
    if seesOpening .round ts || seesCallSign ts then
      if seesCallSign ts then drop "::"
      callArguments g
      return ⟨r.shape, false, false⟩
    else return r
  | _ => return r

/-! ## Bounds -/

/-- Lifetimes that are declared for what follows. -/
def boundLifetimes (g : Grammar) : Scribe Unit := do
  word "for"
  mark "<"
  commaList (seesMark ">") do
    attributes g
    lifetime
  mark ">"

/-- The same if they are there. -/
def boundLifetimes? (g : Grammar) : Scribe Unit := do
  if ← sees (seesWord "for") then boundLifetimes g

/-- The words in front of a bound that holds in constant contexts, if they are there. -/
def constness : Scribe Bool := do
  if ← sees (seesOpening .square) then
    enclosed .square (word "const")
    return true
  else if ← mark? "~" then
    word "const"
    return true
  else word? "const"

/-- The path of a bound with what stands before it; tells whether the bound is for constant
contexts.  A question mark is written before the lifetimes that are declared. -/
def traitBound (g : Grammar) : Scribe Bool := do
  let ((), declared) ← aside (boundLifetimes? g)
  let isConstant ← constness
  let isOptional ← mark? "?"
  writeAll declared
  if isOptional && declared.isEmpty then boundLifetimes? g
  let r ← path g true
  let _ ← callable g r
  return isConstant

/-- The lifetimes and types that a type is said to capture. -/
def captures : Scribe Unit := do
  word "use"
  let _ ← angled do
    let isLifetime ← sees seesLifetime
    if isLifetime then copy
    else if ← sees (seesWord "Self") then copy
    else name
    return (isLifetime, ())

/-- Whether the tokens begin with a bound. -/
def seesBound (ts : Tokens) : Bool :=
  seesAnyName ts || seesMark "::" ts || seesMark "?" ts || seesMark "~" ts || seesLifetime ts ||
    seesOpening .round ts || seesOpening .square ts

/-- Which bounds are allowed: what a type captures, and bounds for constant contexts. -/
structure BoundRules where
  captures : Bool
  constants : Bool

/-- One bound; tells whether it is more than a lifetime. -/
def bound (g : Grammar) (rules : BoundRules) : Scribe Bool := do
  let ts ← rest
  if seesLifetime ts then
    copy
    return false
  else if seesWord "use" ts then
    if rules.captures then captures else failure
    return true
  else
    verbatimIf do
      let isConstant ←
        if seesOpening .round ts then enclosed .round (traitBound g) else traitBound g
      if isConstant && !rules.constants then failure
      return isConstant
    return true

/-- Bounds joined by plus signs, at most `n`; tells whether one of them is more than a
lifetime. -/
def boundsWithin (g : Grammar) (rules : BoundRules) (sums : Bool) : Nat → Scribe Bool
  | 0 => failure
  | n + 1 => do
    let isTrait ← bound g rules
    if sums && (← mark? "+") then
      if ← sees seesBound then
        let others ← boundsWithin g rules sums n
        return isTrait || others
      else return isTrait
    else return isTrait

/-- Bounds joined by plus signs, a single one unless `sums`; tells whether one of them is more
than a lifetime. -/
def bounds (g : Grammar) (rules : BoundRules) (sums : Bool) : Scribe Bool := do
  boundsWithin g rules sums ((← rest).length + 1)

end Scribe

end EntityMapping.Declaration
