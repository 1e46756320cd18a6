import EntityMapping.Text.Quoted

/-!
# Tokens of declarations

A declaration is a sequence of tokens, brackets among them.  The text of a sequence has one
blank between tokens, except inside round and square brackets, where none stands next to the
bracket, and after a mark that is joined to the next one.

Definitions:

- `Token`: the tokens and how each is printed.
- `printTokens`: the text of a sequence.
-/

namespace EntityMapping.Declaration

/-- The kinds of brackets. -/
inductive Bracket
  | round
  | square
  | curly
deriving DecidableEq, Repr

/-- A token: a name or keyword, a lifetime, a constant as written, a text by its value, a
mark, a mark joined to the next one, or a bracket. -/
inductive Token
  | name (spelling : String)
  | lifetime (spelling : String)
  | constant (spelling : String)
  | text (value : String)
  | mark (spelling : String)
  | joined (spelling : String)
  | opening (bracket : Bracket)
  | closing (bracket : Bracket)
deriving DecidableEq, Repr

/-- A sequence of tokens. -/
abbrev Tokens := List Token

/-- The text of a token. -/
def Token.print : Token → String
  | name s => s
  | lifetime s => s
  | constant s => s
  | text s => Text.literal s
  | mark s => s
  | joined s => s
  | opening .round => "("
  | opening .square => "["
  | opening .curly => "\x7b"
  | closing .round => ")"
  | closing .square => "]"
  | closing .curly => "\x7d"

/-- Whether no blank follows the token. -/
def Token.gluesNext : Token → Bool
  | joined _ => true
  | opening .round => true
  | opening .square => true
  | _ => false

/-- Whether no blank precedes the token. -/
def Token.gluesPrevious : Token → Bool
  | closing .round => true
  | closing .square => true
  | _ => false

/-- What stands between two tokens. -/
def gap (a b : Token) : String :=
  if a.gluesNext || b.gluesPrevious then "" else " "

/-- The text of a sequence of tokens. -/
def printTokens : Tokens → String
  | [] => ""
  | [t] => t.print
  | a :: b :: rest => a.print ++ gap a b ++ printTokens (b :: rest)

end EntityMapping.Declaration
