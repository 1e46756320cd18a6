import EntityMapping.Declaration.Scribe

/-!
# Phrases

The phrases of the grammar of types that contain each other, and what is kept of a type that
was read.  A grammar gives a scribe for every phrase; the rules for each kind of phrase take
the grammar of the phrases inside it.

Definitions:

- `Phrase`, `Grammar`: the phrases and their scribes.
- `TypeShape`: the shape of a type.
- `Scribe.name`, `Scribe.literal`: names and constants.
- `Scribe.attributes`: attributes in front of a phrase.
-/

namespace EntityMapping.Declaration

/-! ## Grammars -/

/-- A phrase that may contain others: a type, which may be a sum of bounds; the arguments of a
name in angle brackets; an expression, in which a name before a curly bracket may be that of a
record; an expression that stands alone, so that a block may end it; a single pattern; or a
block. -/
inductive Phrase
  | type (sums : Bool)
  | arguments
  | expression (records : Bool)
  | standalone
  | pattern
  | block

/-- The shape of a type: a reference, a path by its last name with or without a first type
argument, or anything else. -/
inductive TypeShape
  | reference (target : TypeShape)
  | named (last : String)
  | applied (last : String) (argument : TypeShape)
  | other
deriving DecidableEq, Repr

/-- What is kept of a phrase: the shape of a type, that of the first argument if it is a type,
and that a block ended an expression. -/
inductive Finding
  | nothing
  | type (shape : TypeShape)
  | endedByBlock
deriving DecidableEq

/-- The shape that was found. -/
def Finding.shape? : Finding → Option TypeShape
  | type shape => some shape
  | _ => none

/-- A scribe for every phrase. -/
abbrev Grammar := Phrase → Scribe Finding

/-- Read a phrase of which nothing matters. -/
def Grammar.read (g : Grammar) (p : Phrase) : Scribe Unit := do
  let _ ← g p

/-! ## Names -/

/-- The keywords, which are no names. -/
def keywords : List String :=
  ["_", "abstract", "as", "async", "await", "become", "box", "break", "const", "continue", "crate",
    "do", "dyn", "else", "enum", "extern", "false", "final", "fn", "for", "if", "impl", "in", "let",
    "loop", "macro", "match", "mod", "move", "mut", "override", "priv", "pub", "ref", "return",
    "Self", "self", "static", "struct", "super", "trait", "true", "try", "type", "typeof", "unsafe",
    "unsized", "use", "virtual", "where", "while", "yield"]

/-- Whether the tokens begin with a name that is no keyword. -/
def seesName : Tokens → Bool
  | .name w :: _ => !keywords.contains w
  | _ => false

/-- Whether the tokens begin with a name or a keyword. -/
def seesAnyName : Tokens → Bool
  | .name _ :: _ => true
  | _ => false

/-- Whether the tokens begin with one of the words. -/
def seesOneOf (words : List String) (ts : Tokens) : Bool := words.any fun w => seesWord w ts

/-! ## Constants -/

/-- Whether a constant as written is a number. -/
def isNumeral (constant : String) : Bool := (constant.toList.head?.map Char.isDigit).getD false

/-- Whether the tokens begin with a constant, perhaps with a sign. -/
def seesLiteral : Tokens → Bool
  | .constant _ :: _ => true
  | .text _ :: _ => true
  | .name w :: _ => w == "true" || w == "false"
  | t :: .constant s :: _ => t.isMark '-' && isNumeral s
  | _ => false

namespace Scribe

/-- Read and write a name that is no keyword. -/
def name : Scribe Unit := do
  expect seesName
  copy

/-- Read and write a name or a keyword. -/
def anyName : Scribe Unit := do
  expect seesAnyName
  copy

/-- Read and write a constant; a sign becomes part of its number. -/
def literal : Scribe Unit := do
  match ← rest with
  | .constant _ :: _ => copy
  | .text _ :: _ => copy
  | .name w :: _ => if w = "true" ∨ w = "false" then copy else failure
  | t :: .constant s :: rest =>
    if t.isMark '-' && isNumeral s then
      modify fun d => { d with rest }
      write (.constant ("-" ++ s))
    else failure
  | _ => failure

/-! ## Attributes -/

/-- The names of a path without arguments, each perhaps a keyword. -/
def plainPath : Scribe Unit := do
  let _ ← mark? "::"
  repeatWhile do
    anyName
    mark? "::"

/-- The value of an attribute: a constant by itself, or an expression. -/
def attributeValue (g : Grammar) : Scribe Unit := do
  let before ← get
  match (literal >>= fun _ => expect seesEnd).run before with
  | some ((), after) => set after
  | none => g.read (.expression true)

/-- The content of an attribute. -/
def attributeContent (g : Grammar) : Scribe Unit := do
  plainPath
  if ← mark? "=" then attributeValue g
  else if ← sees seesEnd then pure ()
  else copyGroup

/-- Whether the tokens begin with an attribute of what follows. -/
def seesAttribute : Tokens → Bool
  | t :: .opening .square :: _ => t.isMark '#'
  | _ => false

/-- Whether the tokens begin with an attribute of what they stand in. -/
def seesInnerAttribute : Tokens → Bool
  | t :: u :: .opening .square :: _ => t.isMark '#' && u.isMark '!'
  | _ => false

/-- Attributes of what follows. -/
def attributes (g : Grammar) : Scribe Unit :=
  repeatWhile do
    if ← sees seesAttribute then
      mark "#"
      enclosed .square (attributeContent g)
      return true
    else return false

/-- Attributes of what they stand in. -/
def innerAttributes (g : Grammar) : Scribe Unit :=
  repeatWhile do
    if ← sees seesInnerAttribute then
      mark "#"
      mark "!"
      enclosed .square (attributeContent g)
      return true
    else return false

end Scribe

end EntityMapping.Declaration
