import EntityMapping.Declaration.Attribute
import EntityMapping.Declaration.Lexeme

/-!
# Constants in attributes

What the tokens of a value in an attribute stand for: the text of a text constant, the kind of
another one, or tokens that are no constant.

Definitions:

- `unescape`: the text for which the inside of a text constant stands.
- `Literal.ofTokens`: the constant for which tokens stand.
-/

namespace EntityMapping.Declaration

/-! ## Texts -/

/-- The character that a letter after a backslash stands for. -/
def escapedLetter : Char → Char
  | 'n' => '\n'
  | 'r' => '\r'
  | 't' => '\t'
  | '0' => '\x00'
  | c => c

/-- The value of a text constant after its opening quote; `fuel` bounds the number of
characters. -/
def unescape : Nat → List Char → List Char
  | 0, _ => []
  | _ + 1, [] => []
  | fuel + 1, c :: rest =>
    if c = '"' then []
    else if c = '\r' then unescape fuel rest
    else if c = '\\' then
      match rest with
      | 'x' :: a :: b :: rest => Char.ofNat (Text.hexNumber [a, b]) :: unescape fuel rest
      | 'u' :: rest =>
        Char.ofNat (Text.hexNumber (rest.takeWhile (· != '\x7d'))) ::
          unescape fuel ((rest.dropWhile (· != '\x7d')).drop 1)
      | '\n' :: rest => unescape fuel (rest.dropWhile Char.isWhitespace)
      | '\r' :: rest => unescape fuel (rest.dropWhile Char.isWhitespace)
      | d :: rest => escapedLetter d :: unescape fuel rest
      | [] => []
    else c :: unescape fuel rest

/-- The value of a raw text constant after its letter. -/
def rawValue (cs : List Char) : List Char :=
  let hashes := cs.takeWhile (· == '#')
  let content := cs.drop (hashes.length + 1)
  let suffixLength := (content.reverse.takeWhile (· != '"')).length - hashes.length
  content.take (content.length - suffixLength - hashes.length - 1)

/-! ## Values -/

/-- The value that a constant stands for. -/
def constantLiteral (negative : Bool) (s : String) : Literal :=
  match s.toList with
  | '"' :: rest => .text (String.ofList (unescape (rest.length + 1) rest))
  | 'r' :: rest => .text (String.ofList (rawValue rest))
  | c :: rest =>
    if c.isDigit then
      if (decimalRest (c :: rest)).isSome then .float negative else .integer negative
    else .tokens [.constant s]
  | [] => .tokens [.constant s]

/-- The value that tokens stand for. -/
def Literal.ofTokens : Tokens → Literal
  | [.name "true"] => .bool true
  | [.name "false"] => .bool false
  | [.constant s] => constantLiteral false s
  | [.mark "-", .constant s] =>
    match constantLiteral true s with
    | .integer negative => .integer negative
    | .float negative => .float negative
    | _ => .tokens [.mark "-", .constant s]
  | ts => .tokens ts

end EntityMapping.Declaration
