import EntityMapping.Declaration.Phrase.Expression

/-!
# Blocks

The rules for blocks of statements: declarations of variables, macros and expressions.

Definitions:

- `Scribe.statement`: a statement.
- `Scribe.block`: a block.
-/

namespace EntityMapping.Declaration

namespace Scribe

/-- A declaration of variables. -/
def letStatement (g : Grammar) : Scribe Unit := do
  word "let"
  g.read .pattern
  if ← mark? ":" then g.read (.type true)
  if ← mark? "=" then
    whole g
    if ← word? "else" then g.read .block
  mark ";"

/-- The tokens after the names of a path that has no arguments, each perhaps a keyword. -/
def afterPlainPath : Tokens → Tokens
  | .name _ :: .joined ":" :: .mark ":" :: rest => afterPlainPath rest
  | .name _ :: .joined ":" :: .joined ":" :: rest => afterPlainPath rest
  | .name _ :: rest => rest
  | rest => rest

/-- The tokens after the group that they begin with. -/
def afterGroup (ts : Tokens) : Tokens :=
  match splitGroup 0 (ts.drop 1) with
  | some (_, rest) => rest
  | none => []

/-- Whether the tokens begin with a macro that is a statement by its curly brackets. -/
def seesBlockMacro (ts : Tokens) : Bool :=
  let after := afterPlainPath (if seesMark "::" ts then ts.drop 2 else ts)
  let beyond := afterGroup (after.drop 1)
  seesPath ts && seesMark "!" after && seesOpening .curly (after.drop 1) &&
    !(seesMark "." beyond && !seesMark ".." beyond) && !seesMark "?" beyond

/-- A macro that is a statement by its curly brackets. -/
def blockMacro : Scribe Unit := do
  plainPath
  mark "!"
  copyGroup

/-- A statement. -/
def statement (g : Grammar) : Scribe Unit := do
  attributes g
  let ts ← rest
  if seesWord "let" ts then letStatement g
  else if seesBlockMacro ts then blockMacro
  else
    let found ← g .standalone
    if ← mark? ";" then pure ()
    else if found = .endedByBlock then pure ()
    else expect seesEnd

/-- A block of statements. -/
def block (g : Grammar) : Scribe Unit :=
  enclosed .curly do
    innerAttributes g
    repeatWhile do
      if ← mark? ";" then return true
      else if ← sees seesEnd then return false
      else
        statement g
        return true

end Scribe

end EntityMapping.Declaration
