import EntityMapping.Declaration.Phrase.Path

/-!
# Patterns

The rules for patterns: single ones and choices among several.

Definitions:

- `Scribe.pattern`: a single pattern.
- `Scribe.choice`: patterns with bars between them.
-/

namespace EntityMapping.Declaration

namespace Scribe

/-! ## Choices -/

/-- Whether the tokens begin with a bar between patterns. -/
def seesBar (ts : Tokens) : Bool :=
  seesMark "|" ts && !seesMark "||" ts && !seesMark "|=" ts

/-- Patterns with bars between them, perhaps one before the first. -/
def choice (g : Grammar) : Scribe Unit := do
  let _ ← mark? "|"
  repeatWhile do
    g.read .pattern
    if ← sees seesBar then mark? "|" else return false

/-! ## Ranges -/

/-- Whether the tokens end a range that has no upper end. -/
def seesRangeEnd (ts : Tokens) : Bool :=
  seesEnd ts || seesMark "|" ts || seesMark "=" ts ||
    (seesMark ":" ts && !seesMark "::" ts) || seesMark "," ts || seesMark ";" ts ||
    seesWord "if" ts

/-- An end of a range. -/
def rangeBound (g : Grammar) : Scribe Unit := do
  if ← sees seesLiteral then literal
  else if ← word? "const" then g.read .block
  else
    let _ ← qualifiedPath g false

/-- What follows the lower end of a range. -/
def rangeRest (g : Grammar) : Scribe Unit := do
  if ← mark? "..=" then rangeBound g
  else if ← sees (seesMark "...") then
    drop "..."
    write (.mark "..=")
    rangeBound g
  else if ← mark? ".." then
    if !(← sees seesRangeEnd) then rangeBound g

/-! ## Records -/

/-- Whether the tokens begin with the name or the number of a field. -/
def seesMember : Tokens → Bool
  | .constant _ :: _ => true
  | ts => seesName ts

/-- A field of a record pattern. -/
def fieldPattern (g : Grammar) : Scribe Unit := do
  attributes g
  let ts ← rest
  if seesMark ".." ts then mark ".."
  else if seesMark ":" (ts.drop 1) && !seesMark "::" (ts.drop 1) then
    expect seesMember
    copy
    mark ":"
    choice g
  else
    let _ ← word? "box"
    let _ ← word? "ref"
    let _ ← word? "mut"
    name

/-! ## Patterns -/

/-- A pattern that begins with a path: a macro, a record, a tuple, a range or the path itself. -/
def pathPattern (g : Grammar) : Scribe Unit := do
  let r ← qualifiedPath g false
  let ts ← rest
  if r.isPlain && seesMark "!" ts && !seesMark "!=" ts then
    mark "!"
    copyGroup
  else if seesOpening .curly ts then enclosed .curly (commaList seesEnd (fieldPattern g))
  else if seesOpening .round ts then enclosed .round (commaList seesEnd (choice g))
  else rangeRest g

/-- Whether the tokens begin with a name that a pattern binds. -/
def seesBinding (ts : Tokens) : Bool :=
  let after := ts.drop 1
  seesOneOf ["ref", "mut"] ts || (seesWord "self" ts && !seesMark "::" after) ||
    (seesName ts && !seesMark "::" after && !seesMark "!" after && !seesOpening .curly after &&
      !seesOpening .round after && !seesMark ".." after)

/-- A name that a pattern binds, perhaps to what another pattern matches. -/
def binding (g : Grammar) : Scribe Unit := do
  let _ ← word? "ref"
  let _ ← word? "mut"
  if !(← word? "self") then name
  if ← mark? "@" then g.read .pattern

/-- A single pattern. -/
def pattern (g : Grammar) : Scribe Unit := do
  let ts ← rest
  if seesWord "_" ts then copy
  else if seesWord "box" ts then
    verbatim do
      copy
      g.read .pattern
  else if seesLiteral ts || seesWord "const" ts then
    rangeBound g
    rangeRest g
  else if seesBinding ts then binding g
  else if seesMark "&" ts then
    mark "&"
    let _ ← word? "mut"
    g.read .pattern
  else if seesOpening .round ts then enclosed .round (commaList seesEnd (choice g))
  else if seesOpening .square ts then enclosed .square (commaList seesEnd (choice g))
  else if seesMark ".." ts then rangeRest g
  else pathPattern g

end Scribe

end EntityMapping.Declaration
