import EntityMapping.Text.Blank
import EntityMapping.Text.CharTable
import EntityMapping.Text.Quoted

/-!
# Lexemes

Where the constants, names and comments at the front of a text end.  A recognizer takes the
characters from the beginning of a lexeme on and gives those after it, or nothing if no such
lexeme is there.

Definitions:

- `constantRest`, `nameRest`, `lifetimeRest`: what is behind a constant, a name or a lifetime.
- `splitComment`: where a comment ends.
-/

namespace EntityMapping.Declaration

/-- A recognizer of a lexeme, giving the characters after it. -/
abbrev Recognizer := List Char → Option (List Char)

/-! ## Blanks and comments -/

/-- Whether the character separates tokens: a blank or a direction mark. -/
def isSeparator (c : Char) : Bool :=
  Text.isBlank c || c == '\u200e' || c == '\u200f'

/-- The characters before and from the next line break on. -/
def splitLine : List Char → List Char × List Char
  | [] => ([], [])
  | '\n' :: rest => ([], '\n' :: rest)
  | '\r' :: '\n' :: rest => ([], '\n' :: rest)
  | c :: rest => let (line, after) := splitLine rest; (c :: line, after)

/-- The characters inside a comment up to its closing mark, and those after it; `depth` counts
the comments nested in it that are open. -/
def splitComment : Nat → List Char → Option (List Char × List Char)
  | _, [] => none
  | depth, '/' :: '*' :: rest =>
    (splitComment (depth + 1) rest).map fun r => ('/' :: '*' :: r.1, r.2)
  | 0, '*' :: '/' :: rest => some ([], rest)
  | depth + 1, '*' :: '/' :: rest =>
    (splitComment depth rest).map fun r => ('*' :: '/' :: r.1, r.2)
  | depth, c :: rest => (splitComment depth rest).map fun r => (c :: r.1, r.2)

/-! ## Names -/

/-- Whether the character may begin a name.  Beyond ASCII every character may that does not
separate tokens; whether it should is a question of `Text.isNameStart`. -/
def beginsName (c : Char) : Bool :=
  Text.isNameStart c || (0x80 ≤ c.toNat && !isSeparator c)

/-- Whether the character may continue a name. -/
def continuesName (c : Char) : Bool := beginsName c || Text.isNameRest c

/-- A name. -/
def plainNameRest : Recognizer
  | c :: rest => if beginsName c then some (rest.dropWhile continuesName) else none
  | [] => none

/-- The names that have no raw form. -/
def neverRaw : List String := ["_", "super", "self", "Self", "crate"]

/-- A name, perhaps in its raw form. -/
def nameRest : Recognizer
  | 'r' :: '#' :: cs =>
    match plainNameRest cs with
    | none => none
    | some rest =>
      if neverRaw.contains (String.ofList (cs.take (cs.length - rest.length))) then none
      else some rest
  | cs => plainNameRest cs

/-- The characters after the name that may end a constant. -/
def dropSuffix (cs : List Char) : List Char := (plainNameRest cs).getD cs

/-! ## Escapes -/

/-- What a quoted constant may hold: characters beyond ASCII, named by their code point or
not, and bytes that are no characters. -/
structure Quotable where
  wide : Bool
  codePoints : Bool
  highBytes : Bool

/-- What a text may hold. -/
def textQuotable : Quotable := ⟨true, true, false⟩

/-- What a sequence of bytes may hold. -/
def byteQuotable : Quotable := ⟨false, false, true⟩

/-- What a text that ends in a zero byte may hold. -/
def zeroEndedQuotable : Quotable := ⟨true, true, true⟩

/-- Whether the character is a hexadecimal digit. -/
def isHexDigit (c : Char) : Bool := (Text.hexValue? c).isSome

/-- The hexadecimal digits of a code point, at most `n`, up to the closing brace. -/
def codePointRest (first : Bool) : Nat → Recognizer
  | _, [] => none
  | 0, c :: rest =>
    if c = '_' then codePointRest false 0 rest else if c = '\x7d' then some rest else none
  | n + 1, c :: rest =>
    if isHexDigit c then codePointRest false n rest
    else if first then none
    else if c = '_' then codePointRest false (n + 1) rest
    else if c = '\x7d' then some rest
    else none

/-- The escape after a backslash, line breaks apart. -/
def escapeRest (q : Quotable) : Recognizer
  | 'x' :: a :: b :: rest =>
    if isHexDigit a && isHexDigit b && (q.highBytes || a < '8') then some rest else none
  | 'u' :: '\x7b' :: rest => if q.codePoints then codePointRest true 6 rest else none
  | c :: rest => if c ∈ ['n', 'r', 't', '\\', '\'', '"', '0'] then some rest else none
  | [] => none

/-! ## Quoted constants -/

/-- The content of a text constant after its opening quote; `fuel` bounds the number of
characters. -/
def quotedRest (q : Quotable) : Nat → Recognizer
  | 0, _ => none
  | _ + 1, [] => none
  | fuel + 1, c :: rest =>
    if c = '"' then some (dropSuffix rest)
    else if c = '\\' then
      match rest with
      | '\n' :: rest => quotedRest q fuel (rest.dropWhile Char.isWhitespace)
      | rest => (escapeRest q rest).bind (quotedRest q fuel)
    else if c = '\r' && rest.head? != some '\n' then none
    else if 0x80 ≤ c.toNat && !q.wide then none
    else quotedRest q fuel rest

/-- The content of a raw constant up to a quote with as many hashes as opened it. -/
def rawContentRest (q : Quotable) (hashes : List Char) : Recognizer
  | [] => none
  | c :: rest =>
    if c = '"' && hashes.isPrefixOf rest then some (dropSuffix (rest.drop hashes.length))
    else if 0x80 ≤ c.toNat && !q.wide then none
    else rawContentRest q hashes rest

/-- A raw constant after its letters. -/
def rawRest (q : Quotable) (cs : List Char) : Option (List Char) :=
  let hashes := cs.takeWhile (· == '#')
  match cs.drop hashes.length with
  | '"' :: rest => rawContentRest q hashes rest
  | _ => none

/-- A constant between apostrophes, after the first of them. -/
def apostropheRest (q : Quotable) (cs : List Char) : Option (List Char) :=
  let content :=
    match cs with
    | '\\' :: rest => escapeRest q rest
    | c :: rest => if q.wide || c.toNat < 0x80 then some rest else none
    | [] => none
  match content with
  | some ('\'' :: rest) => some (dropSuffix rest)
  | _ => none

/-- A quoted constant with the letters before it. -/
def quotedConstantRest (cs : List Char) : Option (List Char) :=
  match cs with
  | '"' :: rest => quotedRest textQuotable cs.length rest
  | 'r' :: rest => rawRest textQuotable rest
  | 'b' :: '"' :: rest => quotedRest byteQuotable cs.length rest
  | 'b' :: 'r' :: rest => rawRest byteQuotable rest
  | 'b' :: '\'' :: rest => apostropheRest byteQuotable rest
  | 'c' :: '"' :: rest => quotedRest zeroEndedQuotable cs.length rest
  | 'c' :: 'r' :: rest => rawRest zeroEndedQuotable rest
  | '\'' :: rest => apostropheRest textQuotable rest
  | _ => none

/-! ## Numbers -/

/-- Whether the character may stand among decimal digits. -/
def isDigitOrGap (c : Char) : Bool := c.isDigit || c == '_'

/-- The characters after digits and underscores. -/
def digitsRest (cs : List Char) : List Char := cs.dropWhile isDigitOrGap

/-- The digits of an exponent, perhaps with a sign. -/
def exponentRest (cs : List Char) : Option (List Char) :=
  let unsigned := cs.dropWhile (· == '_')
  let digits :=
    match unsigned with
    | c :: rest => if c = '+' || c = '-' then rest else unsigned
    | [] => []
  if (digits.takeWhile isDigitOrGap).any Char.isDigit then some (digitsRest digits) else none

/-- Whether the number goes on with something that no fraction begins with. -/
def refusesFraction : List Char → Bool
  | c :: _ => c == '.' || beginsName c
  | [] => false

/-- A number with a fraction or an exponent, before its suffix. -/
def decimalRest (cs : List Char) : Option (List Char) :=
  let isExponent (c : Char) : Bool := c == 'e' || c == 'E'
  match cs with
  | c :: _ =>
    if !c.isDigit then none
    else
      match digitsRest cs with
      | '.' :: rest =>
        if refusesFraction rest then none
        else
          let after := digitsRest rest
          match after with
          | e :: more => if isExponent e then some ((exponentRest more).getD after) else some after
          | [] => some []
      | e :: more => if isExponent e then exponentRest more else none
      | [] => none
  | [] => none

/-- The digits of a whole number in a base; `met` tells that there was one before. -/
def wholeDigitsRest (base : Nat) (met : Bool) : Recognizer
  | [] => if met then some [] else none
  | c :: rest =>
    let stop : Option (List Char) := if met then some (c :: rest) else none
    if c.isDigit then
      if c.toNat - 0x30 < base then wholeDigitsRest base true rest else none
    else if isHexDigit c then if base = 16 then wholeDigitsRest base true rest else stop
    else if c = '_' then if met || base != 10 then wholeDigitsRest base met rest else none
    else stop

/-- A whole number, before its suffix. -/
def wholeRest : Recognizer
  | '0' :: 'x' :: rest => wholeDigitsRest 16 false rest
  | '0' :: 'o' :: rest => wholeDigitsRest 8 false rest
  | '0' :: 'b' :: rest => wholeDigitsRest 2 false rest
  | cs => wholeDigitsRest 10 false cs

/-- A number with its suffix. -/
def numberRest (cs : List Char) : Option (List Char) :=
  (decimalRest cs <|> wholeRest cs).map dropSuffix

/-- A constant. -/
def constantRest (cs : List Char) : Option (List Char) :=
  quotedConstantRest cs <|> numberRest cs

/-- A lifetime after its apostrophe. -/
def lifetimeRest (cs : List Char) : Option (List Char) :=
  match nameRest cs with
  | some ('\'' :: _) => none
  | some ('#' :: rest) => if ['r', '#'].isPrefixOf cs then some ('#' :: rest) else none
  | found => found

end EntityMapping.Declaration
