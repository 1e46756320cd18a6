import EntityMapping.Text.CharTable

/-!
# Quoted literals

A text written between quotes so that every character shows: quotes and backslashes are
escaped, the usual controls have a letter, and any other character without a visible form
of its own is written by its code point.

Definitions:

- `quoted`: the text between quotes, every character visible.
- `literal`: the text as a string literal of a declaration.
-/

namespace EntityMapping.Text

/-- Whether the character is a mark on the one before it. -/
def isExtender (c : Char) : Bool :=
  inRanges nonspacingRanges c || inRanges enclosingRanges c || inRanges extendingRanges c

/-- Whether the character has a visible form of its own. -/
def isVisible (c : Char) : Bool :=
  if c.toNat < 0x7F then 0x20 ≤ c.toNat
  else !inRanges hiddenRanges c && !isExtender c

/-- The value of a hexadecimal digit. -/
def hexValue? (c : Char) : Option Nat :=
  if '0' ≤ c ∧ c ≤ '9' then some (c.toNat - 0x30)
  else if 'a' ≤ c ∧ c ≤ 'f' then some (c.toNat - 0x57)
  else if 'A' ≤ c ∧ c ≤ 'F' then some (c.toNat - 0x37)
  else none

/-- The number that hexadecimal digits denote; other characters do not count. -/
def hexNumber (cs : List Char) : Nat :=
  (cs.filterMap hexValue?).foldl (fun n d => 16 * n + d) 0

/-- The escape that names the character by its code point. -/
def codePointEscape (c : Char) : List Char :=
  '\\' :: 'u' :: '\x7b' :: Nat.toDigits 16 c.toNat ++ ['\x7d']

/-- The character as it stands between quotes. -/
def escaped (c : Char) : List Char :=
  if c = '\x00' then ['\\', '0']
  else if c = '\t' then ['\\', 't']
  else if c = '\r' then ['\\', 'r']
  else if c = '\n' then ['\\', 'n']
  else if c = '\\' then ['\\', '\\']
  else if c = '"' then ['\\', '"']
  else if isVisible c then [c]
  else codePointEscape c

/-- The text between quotes. -/
def quoted (s : String) : String :=
  String.ofList ('"' :: s.toList.flatMap escaped ++ ['"'])

/-- Whether the text begins with a digit below eight. -/
def startsOctal : List Char → Bool
  | [] => false
  | c :: _ => '0' ≤ c && c ≤ '7'

/-- The characters as they stand in a string literal of a declaration: as `escaped`, but a
NUL before an octal digit has its two-digit form. -/
def literalBody : List Char → List Char
  | [] => []
  | c :: rest =>
    (if c = '\x00' && startsOctal rest then ['\\', 'x', '0', '0'] else escaped c) ++
      literalBody rest

/-- The text as a string literal of a declaration. -/
def literal (s : String) : String :=
  String.ofList ('"' :: literalBody s.toList ++ ['"'])

end EntityMapping.Text
