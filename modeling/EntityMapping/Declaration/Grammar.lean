import EntityMapping.Declaration.Phrase.Block
import EntityMapping.Text.CharTable

/-!
# The grammar of types and paths

The grammar that the rules of all phrases make up, and what it says of the tokens of a type
and of a path: how they are spelled and which shape they have.

Main results:

- `typeOf_of_readType?`: what is kept of a type.
-/

namespace EntityMapping.Declaration

namespace Scribe

/-- The rule for each phrase, given the grammar of the phrases inside it. -/
def phrase (g : Grammar) : Grammar
  | .type sums => return .type (← type g sums)
  | .arguments => arguments g
  | .expression records => do
    expression g records
    return .nothing
  | .standalone => standalone g
  | .pattern => do
    pattern g
    return .nothing
  | .block => do
    block g
    return .nothing

/-- The grammar of phrases that contain each other at most `n` times. -/
def grammarWithin : Nat → Grammar
  | 0, _ => failure
  | n + 1, p => phrase (grammarWithin n) p

/-- The grammar of the phrases of a sequence of tokens.  No more than three phrases begin at
the same token. -/
def grammarFor (ts : Tokens) : Grammar := grammarWithin (4 * ts.length + 4)

end Scribe

/-! ## Types -/

/-- The shape and the spelling of the type that tokens make up, if they do. -/
def readType? (ts : Tokens) : Option (TypeShape × Tokens) :=
  Scribe.complete? (Scribe.type (Scribe.grammarFor ts) true) ts

/-- The shape and the spelling of the tokens of a type; what is no type is kept as it stands. -/
def typeOf (ts : Tokens) : TypeShape × Tokens := (readType? ts).getD (.other, ts)

/-- A type that can be read is kept as it was read. -/
theorem typeOf_of_readType? {ts : Tokens} {r : TypeShape × Tokens} (h : readType? ts = some r) :
    typeOf ts = r := by
  simp [typeOf, h]

/-! ## Paths -/

/-- The spelling of the path that tokens make up, if they do: one in a type, whose arguments
follow its names at once, or one in an expression. -/
def readPath? (inType : Bool) (ts : Tokens) : Option Tokens :=
  (Scribe.complete? (Scribe.path (Scribe.grammarFor ts) inType) ts).map (·.2)

/-- Whether a name as written is well formed. -/
def isWellFormedName (s : String) : Bool :=
  let cs := if s.startsWith "r#" then s.toList.drop 2 else s.toList
  match cs with
  | c :: rest => Text.isNameStart c && rest.all Text.isNameRest
  | [] => false

/-- Whether the names among the tokens are well formed. -/
def areWellFormed (ts : Tokens) : Bool :=
  ts.all fun t =>
    match t with
    | .name s => isWellFormedName s
    | .lifetime s => isWellFormedName (String.ofList (s.toList.drop 1))
    | _ => true

end EntityMapping.Declaration
