import EntityMapping.Declaration.Phrase.Pattern
import EntityMapping.Declaration.Phrase.Type

/-!
# Expressions

The rules for expressions.  An expression is a sequence of operands with operators between
them; how operators bind does not change how they are spelled.

Definitions:

- `Scribe.operand`: an operand with what stands before and after it.
- `Scribe.expression`: an expression.
- `Scribe.standalone`: an expression that a block may end.
-/

namespace EntityMapping.Declaration

namespace Scribe

/-! ## Operators -/

/-- The operators between two operands, longer ones first. -/
def binaryOperators : List String :=
  ["<<=", ">>=", "+=", "-=", "*=", "/=", "%=", "^=", "&=", "|=", "&&", "||", "<<", ">>", "==", "<=",
    "!=", ">=", "+", "-", "*", "/", "%", "^", "&", "|", "<", ">"]

/-- The operator that the tokens begin with. -/
def operatorAt? (ts : Tokens) : Option String :=
  if seesMark "=" ts && !seesMark "==" ts && !seesMark "=>" ts then some "="
  else if seesMark "=>" ts then none
  else binaryOperators.find? fun o => seesMark o ts

/-- Whether the tokens end a range that has no upper end. -/
def seesOpenRangeEnd (records : Bool) (ts : Tokens) : Bool :=
  seesEnd ts || (!records && seesOpening .curly ts) || seesWord "as" ts ||
    (seesMark "." ts && !seesMark ".." ts) ||
    [",", ";", "?", "=", "+", "/", "%", "^", ">", "<=", "!=", "-=", "*=", "&=", "|=", "<<="].any
      fun o => seesMark o ts

/-- What follows an operand; tells whether another operand does. -/
def afterOperand (g : Grammar) (records : Bool) : Scribe Bool := do
  repeatWhile do
    if ← word? "as" then
      g.read (.type false)
      return true
    else return false
  if ← mark? "..=" then return true
  else if ← mark? ".." then return !(← sees (seesOpenRangeEnd records))
  else
    match operatorAt? (← rest) with
    | some operator =>
      mark operator
      return true
    | none => return false

/-! ## Closures -/

/-- An argument of a closure. -/
def closureArgument (g : Grammar) : Scribe Unit := do
  attributes g
  g.read .pattern
  if (← sees (seesMark ":")) then
    mark ":"
    g.read (.type true)

/-- Whether the tokens begin with a closure. -/
def seesClosure (ts : Tokens) : Bool :=
  let after := ts.drop 1
  seesMark "|" ts || seesOneOf ["move", "static"] ts ||
    (seesWord "for" ts && seesMark "<" after) ||
    (seesWord "const" ts && !seesOpening .curly after) ||
    (seesWord "async" ts && (seesMark "|" after || seesWord "move" after))

/-- A closure. -/
def closure (g : Grammar) (records : Bool) : Scribe Unit := do
  boundLifetimes? g
  let _ ← word? "const"
  let _ ← word? "static"
  let _ ← word? "async"
  let _ ← word? "move"
  mark "|"
  commaList (seesMark "|") (closureArgument g)
  mark "|"
  if ← mark? "->" then
    g.read (.type true)
    g.read .block
  else g.read (.expression records)

/-! ## Expressions with blocks -/

/-- An expression by itself, in brackets or after an operator. -/
def whole (g : Grammar) : Scribe Unit := g.read (.expression true)

/-- A condition, which no record ends. -/
def condition (g : Grammar) : Scribe Unit := g.read (.expression false)

/-- A conditional with its alternatives. -/
def conditional (g : Grammar) : Scribe Unit :=
  repeatWhile do
    word "if"
    condition g
    g.read .block
    if ← word? "else" then
      if ← sees (seesWord "if") then return true
      else
        g.read .block
        return false
    else return false

/-- An arm of a match. -/
def arm (g : Grammar) : Scribe Unit := do
  attributes g
  choice g
  if ← word? "if" then whole g
  mark "=>"
  let found ← g .standalone
  if ← sees seesEnd then pure ()
  else if found = .endedByBlock then
    let _ ← mark? ","
  else mark ","

/-- A match. -/
def matching (g : Grammar) : Scribe Unit := do
  word "match"
  condition g
  enclosed .curly do
    innerAttributes g
    repeatWhile do
      if ← sees seesEnd then return false
      else
        arm g
        return true

/-- A loop. -/
def loop (g : Grammar) : Scribe Unit := do
  if ← word? "while" then condition g
  else if ← word? "for" then
    choice g
    word "in"
    condition g
  else word "loop"
  g.read .block

/-- Whether the tokens begin with an expression that may end a statement by its block. -/
def seesBlockLike (ts : Tokens) : Bool :=
  let after := ts.drop 1
  seesOpening .curly ts || seesOneOf ["if", "while", "loop", "match"] ts ||
    (seesWord "for" ts && !seesMark "<" after) ||
    (seesOneOf ["unsafe", "const", "try"] ts && seesOpening .curly after) ||
    (seesLifetime ts && seesMark ":" after)

/-- An expression that may end a statement by its block. -/
def blockLike (g : Grammar) : Scribe Unit := do
  let ts ← rest
  if seesLifetime ts then
    copy
    mark ":"
    if ← sees (seesOpening .curly) then g.read .block else loop g
  else if seesWord "if" ts then conditional g
  else if seesWord "match" ts then matching g
  else if seesOneOf ["while", "for", "loop"] ts then loop g
  else
    if seesOneOf ["unsafe", "const", "try"] ts then copy
    g.read .block

/-! ## Records -/

/-- A field of a record. -/
def recordField (g : Grammar) : Scribe Unit := do
  attributes g
  if ← mark? ".." then
    if !(← sees seesEnd) then whole g
  else
    match ← rest with
    | .constant _ :: _ =>
      copy
      mark ":"
      whole g
    | _ =>
      name
      if ← mark? ":" then whole g

/-- A path, a macro or a record. -/
def pathExpression (g : Grammar) (records : Bool) : Scribe Unit := do
  let r ← qualifiedPath g false
  let ts ← rest
  if r.isPlain && seesMark "!" ts && !seesMark "!=" ts then
    mark "!"
    copyGroup
  else if records && seesOpening .curly ts then
    enclosed .curly (commaList seesEnd (recordField g))

/-! ## Operands -/

/-- Whether the tokens begin with an expression. -/
def seesExpression (ts : Tokens) : Bool :=
  (seesAnyName ts && !seesWord "as" ts) || seesOpening .round ts || seesOpening .square ts ||
    seesOpening .curly ts || seesLiteral ts || (seesMark "!" ts && !seesMark "!=" ts) ||
    (seesMark "-" ts && !seesMark "-=" ts && !seesMark "->" ts) ||
    (seesMark "*" ts && !seesMark "*=" ts) || (seesMark "|" ts && !seesMark "|=" ts) ||
    (seesMark "&" ts && !seesMark "&=" ts) || seesMark ".." ts ||
    (seesMark "<" ts && !seesMark "<=" ts && !seesMark "<<=" ts) || seesMark "::" ts ||
    seesLifetime ts || seesMark "#" ts

/-- A jump with its value, if it has one. -/
def jump (g : Grammar) (records : Bool) : Scribe Unit := do
  let ts ← rest
  copy
  if seesWord "return" ts || seesWord "yield" ts then
    if ← sees seesExpression then whole g
  else
    if ← sees seesLifetime then copy
    if seesWord "break" ts then
      let after ← rest
      if seesExpression after && (records || !seesOpening .curly after) then
        g.read (.expression records)

/-- Expressions in square brackets: an array, or a value with its number. -/
def array (g : Grammar) : Scribe Unit :=
  enclosed .square do
    if !(← sees seesEnd) then
      whole g
      if ← mark? ";" then whole g
      else if ← mark? "," then commaList seesEnd (whole g)

/-- An operand without what stands before and after it. -/
def atom (g : Grammar) (records : Bool) : Scribe Unit := do
  let ts ← rest
  let after := ts.drop 1
  if seesLiteral ts then literal
  else if seesWord "async" ts &&
      (seesOpening .curly after || (seesWord "move" after && seesOpening .curly (ts.drop 2))) then
    copy
    let _ ← word? "move"
    g.read .block
  else if seesClosure ts then closure g records
  else if seesBlockLike ts then blockLike g
  else if seesBuiltin ts then builtinCall
  else if seesPath ts || (seesWord "try" ts && (seesMark "!" after || seesMark "::" after)) then
    pathExpression g records
  else if seesOpening .round ts then enclosed .round (commaList seesEnd (whole g))
  else if seesOneOf ["break", "continue", "return", "yield"] ts then jump g records
  else if seesWord "become" ts then
    verbatim do
      copy
      whole g
  else if seesOpening .square ts then array g
  else if seesWord "let" ts then
    copy
    choice g
    mark "="
    g.read (.expression records)
  else if seesMark ".." ts then
    if !(← mark? "..=") then mark ".."
    if !(← sees (seesOpenRangeEnd records)) then g.read (.expression records)
  else word "_"

/-- The signs before an operand. -/
def signs (g : Grammar) : Scribe Unit :=
  repeatWhile do
    attributes g
    let ts ← rest
    if seesMark "&" ts then
      mark "&"
      let after ← rest
      if seesWord "raw" after && seesOneOf ["mut", "const"] (after.drop 1) then
        copy
        copy
      else
        let _ ← word? "mut"
      return true
    else if seesMark "*" ts then mark? "*"
    else if seesMark "!" ts then mark? "!"
    else mark? "-"

/-- The places that a number with points between digits names one after the other. -/
def places (constant : String) : List String := constant.splitOn "."

/-- The places after a point, each after a point of its own. -/
def writePlaces : List String → Scribe Unit
  | [] => pure ()
  | p :: rest => do
    if !p.isEmpty then write (.constant p)
    if !rest.isEmpty then write (.mark ".")
    writePlaces rest

/-- What follows a point: a place, a name, or a call of a method. -/
def member (g : Grammar) : Scribe Unit := do
  match ← rest with
  | .constant s :: _ =>
    let _ ← next
    writePlaces (places s)
    if s.endsWith "." then name
  | .name "await" :: _ => copy
  | _ =>
    name
    if ← sees (seesMark "::") then
      mark "::"
      g.read .arguments
      expect (seesOpening .round)

/-- What follows an operand: calls, members, indices and question marks. -/
def trailers (g : Grammar) : Scribe Unit :=
  repeatWhile do
    let ts ← rest
    if seesOpening .round ts then
      enclosed .round (commaList seesEnd (whole g))
      return true
    else if seesMark "." ts && !seesMark ".." ts then
      mark "."
      member g
      return true
    else if seesOpening .square ts then
      enclosed .square (whole g)
      return true
    else mark? "?"

/-! ## Expressions -/

/-- An expression that stands alone: a block at its beginning ends it, unless a member or a
question mark follows. -/
def standalone (g : Grammar) : Scribe Finding := do
  attributes g
  if ← sees seesBlockLike then
    blockLike g
    let ts ← rest
    if (seesMark "." ts && !seesMark ".." ts) || seesMark "?" ts then
      trailers g
      if ← afterOperand g true then whole g
      return .nothing
    else return .endedByBlock
  else
    whole g
    return .nothing

/-- An expression. -/
def expression (g : Grammar) (records : Bool) : Scribe Unit :=
  repeatWhile do
    signs g
    atom g records
    trailers g
    afterOperand g records

end Scribe

end EntityMapping.Declaration
