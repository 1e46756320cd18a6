import EntityMapping.Declaration.Lexeme
import EntityMapping.Declaration.Token

/-!
# Tokens of a text

The tokens of which a text consists.  Blanks and comments separate tokens, and a comment for
readers of the documentation stands for an attribute.  Every mark is one character, which is
joined to the next if that is a mark, too.

Definitions:

- `scan`: the token or comment at the front of a text.
- `tokens?`: the tokens of a text whose brackets match.
-/

namespace EntityMapping.Declaration

/-! ## Marks and brackets -/

/-- The characters that are marks. -/
def markCharacters : List Char :=
  ['~', '!', '@', '#', '$', '%', '^', '&', '*', '-', '=', '+', '|', ';', ':', ',', '<', '.', '>',
    '/', '?']

/-- Whether the characters begin with a comment. -/
def beginsComment : List Char → Bool
  | '/' :: '/' :: _ => true
  | '/' :: '*' :: _ => true
  | _ => false

/-- Whether the characters begin with a mark or with the apostrophe of a lifetime. -/
def beginsMark (cs : List Char) : Bool :=
  match cs with
  | c :: _ => (markCharacters.contains c || c == '\'') && !beginsComment cs
  | [] => false

/-- The bracket that a character is. -/
def bracketOf? : Char → Option Token
  | '(' => some (.opening .round)
  | '[' => some (.opening .square)
  | '\x7b' => some (.opening .curly)
  | ')' => some (.closing .round)
  | ']' => some (.closing .square)
  | '\x7d' => some (.closing .curly)
  | _ => none

/-! ## Comments -/

/-- What a comment is for: nobody else, what follows it, or what it stands in. -/
inductive Audience
  | writer
  | next
  | enclosing
deriving DecidableEq

/-- Whom a comment is for whose marks are repeated as `mark`, by what follows its opening. -/
def audience (mark : Char) : List Char → Audience
  | '!' :: _ => .enclosing
  | c :: d :: _ =>
    if c != mark || d == mark then .writer
    else if mark == '*' && d == '/' then .writer
    else .next
  | [c] => if c == mark && mark == '/' then .next else .writer
  | [] => .writer

/-- Whether a documentation text has line breaks only as they should be. -/
def hasPlainBreaks : List Char → Bool
  | [] => true
  | '\r' :: rest => rest.head? == some '\n' && hasPlainBreaks rest
  | _ :: rest => hasPlainBreaks rest

/-- The attribute for which a documentation text stands. -/
def documentation (isInner : Bool) (content : List Char) : Tokens :=
  .mark "#" :: (if isInner then [.mark "!"] else []) ++
    [.opening .square, .name "doc", .mark "=", .text (String.ofList content), .closing .square]

/-- The tokens for which a comment stands, by whom it is for and what it says. -/
def commentTokens? (a : Audience) (content : List Char) : Option Tokens :=
  match a with
  | .writer => some []
  | _ =>
    if hasPlainBreaks content then some (documentation (a == .enclosing) (content.drop 1))
    else none

/-- The tokens for which the comment at the front stands, and the characters after it. -/
def comment? : List Char → Option (Tokens × List Char)
  | '/' :: '/' :: cs =>
    let (content, rest) := splitLine cs
    (commentTokens? (audience '/' cs) content).map fun ts => (ts, rest)
  | '/' :: '*' :: cs => do
    let (content, rest) ← splitComment 0 cs
    let ts ← commentTokens? (audience '*' cs) content
    return (ts, rest)
  | _ => none

/-! ## Tokens -/

/-- The token made of the characters that a recognizer takes from the front, and those after
it. -/
def lexeme? (make : String → Token) (cs : List Char) (rest? : Option (List Char)) :
    Option (Tokens × List Char) :=
  rest?.map fun rest => ([make (String.ofList (cs.take (cs.length - rest.length)))], rest)

/-- The letters that begin a constant if a quote or a hash follows them. -/
def beginsQuoted (cs : List Char) : Bool :=
  [['r', '"'], ['r', '#', '"'], ['r', '#', '#'], ['b', '"'], ['b', '\''], ['b', 'r', '"'],
    ['b', 'r', '#'], ['c', '"'], ['c', 'r', '"'], ['c', 'r', '#']].any fun p => p.isPrefixOf cs

/-- The name at the front. -/
def name? (cs : List Char) : Option (Tokens × List Char) :=
  if beginsQuoted cs then none else lexeme? .name cs (nameRest cs)

/-- The lifetime at the front. -/
def lifetime? : List Char → Option (Tokens × List Char)
  | '\'' :: cs => lexeme? .lifetime ('\'' :: cs) (lifetimeRest cs)
  | _ => none

/-- The mark at the front. -/
def mark? : List Char → Option (Tokens × List Char)
  | c :: rest =>
    if markCharacters.contains c then
      some ([(if beginsMark rest then Token.joined else .mark) (String.singleton c)], rest)
    else none
  | [] => none

/-- The bracket at the front. -/
def bracket? : List Char → Option (Tokens × List Char)
  | c :: rest => (bracketOf? c).map fun t => ([t], rest)
  | [] => none

/-- The tokens for which the front of the characters stands, and the characters after it. -/
def scan (cs : List Char) : Option (Tokens × List Char) :=
  if beginsComment cs then comment? cs
  else
    bracket? cs <|> lexeme? .constant cs (constantRest cs) <|> lifetime? cs <|> mark? cs <|>
      name? cs

/-- The tokens of which the characters consist; `fuel` bounds the number of steps. -/
def tokensWithin : Nat → List Char → Option Tokens
  | _, [] => some []
  | 0, _ => none
  | fuel + 1, c :: cs =>
    if isSeparator c then tokensWithin fuel cs
    else
      match scan (c :: cs) with
      | none => none
      | some (ts, rest) => (tokensWithin fuel rest).map (ts ++ ·)

/-- The tokens of which the characters consist.  Each step takes at least one of them. -/
def tokensOf (cs : List Char) : Option Tokens := tokensWithin cs.length cs

/-- Whether every bracket is closed by its counterpart; `inner` are the open ones, innermost
first. -/
def isBalanced : List Bracket → Tokens → Bool
  | inner, [] => inner.isEmpty
  | inner, .opening b :: ts => isBalanced (b :: inner) ts
  | b :: outer, .closing c :: ts => b == c && isBalanced outer ts
  | [], .closing _ :: _ => false
  | inner, _ :: ts => isBalanced inner ts

/-- The characters after a byte order mark at the beginning. -/
def dropOrderMark : List Char → List Char
  | '\ufeff' :: cs => cs
  | cs => cs

/-- The tokens of which a text consists. -/
def tokens? (s : String) : Option Tokens :=
  (tokensOf (dropOrderMark s.toList)).filter (isBalanced [])

end EntityMapping.Declaration
