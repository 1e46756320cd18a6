import EntityMapping.Json.Fault
import EntityMapping.Json.Value

/-!
# Lexemes of JSON documents

Readers of blanks, words, strings and numbers.  A reader takes the rest of the document and
gives what it read with what is left, or the first fault it met.

Main results:

- `skipBlank_idem`: after skipping, the rest begins with no blank.
-/

namespace EntityMapping.Json

/-- A reader of a value from the front of a document. -/
abbrev Reader (α : Type) := List Char → Except Fault (α × List Char)

/-! ## Blanks and words -/

/-- The four blanks of the format. -/
def isSpace (c : Char) : Bool :=
  c == ' ' || c == '\n' || c == '\t' || c == '\r'

/-- The rest after blanks. -/
def skipBlank (cs : List Char) : List Char := cs.dropWhile isSpace

@[simp]
theorem skipBlank_idem (cs : List Char) : skipBlank (skipBlank cs) = skipBlank cs := by
  induction cs with
  | nil => rfl
  | cons c rest ih =>
    by_cases h : isSpace c = true
    · simpa [skipBlank, h] using ih
    · simp [skipBlank, h]

/-- The rest after the given letters. -/
def word : List Char → List Char → Except Fault (List Char)
  | [], cs => .ok cs
  | _ :: _, [] => .error .endInValue
  | w :: ws, c :: cs => if c = w then word ws cs else .error .expectedWord

/-! ## Strings -/

/-- The number of bytes that the characters take in UTF-8. -/
def byteCount (cs : List Char) : Nat := cs.foldl (fun n c => n + c.utf8Size) 0

/-- The value of four hexadecimal digits. -/
def hexQuad (cs : List Char) : Except Fault Nat :=
  if byteCount (cs.take 4) < 4 then .error .endInString
  else
    match (cs.take 4).mapM Text.hexValue? with
    | some [a, b, c, d] => .ok (((a * 16 + b) * 16 + c) * 16 + d)
    | _ => .error .invalidEscape

/-- The character that a hexadecimal escape names, and the length of what follows its
introducing letter.  A leading surrogate takes a second escape. -/
def hexEscape (cs : List Char) : Except Fault (Char × Nat) := do
  let n ← hexQuad cs
  if 0xDC00 ≤ n ∧ n ≤ 0xDFFF then .error .loneSurrogate
  else if n < 0xD800 ∨ 0xDBFF < n then .ok (Char.ofNat n, 4)
  else
    match cs.drop 4 with
    | [] => .error .endInString
    | '\\' :: rest =>
      match rest with
      | [] => .error .endInString
      | 'u' :: rest => do
        let m ← hexQuad rest
        if m < 0xDC00 ∨ 0xDFFF < m then .error .loneSurrogate
        else .ok (Char.ofNat (0x10000 + (n - 0xD800) * 0x400 + (m - 0xDC00)), 10)
      | _ => .error .unfinishedSurrogate
    | _ => .error .unfinishedSurrogate

/-- The character that an escape stands for, and its length after the backslash. -/
def unescape : List Char → Except Fault (Char × Nat)
  | [] => .error .endInString
  | '"' :: _ => .ok ('"', 1)
  | '\\' :: _ => .ok ('\\', 1)
  | '/' :: _ => .ok ('/', 1)
  | 'b' :: _ => .ok ('\x08', 1)
  | 'f' :: _ => .ok ('\x0c', 1)
  | 'n' :: _ => .ok ('\n', 1)
  | 'r' :: _ => .ok ('\r', 1)
  | 't' :: _ => .ok ('\t', 1)
  | 'u' :: rest => (hexEscape rest).map fun r => (r.1, r.2 + 1)
  | _ => .error .invalidEscape

/-- Put a character in front of what a reader of characters found. -/
def push (c : Char) (found : Except Fault (List Char × List Char)) :
    Except Fault (List Char × List Char) :=
  found.map fun r => (c :: r.1, r.2)

/-- The characters of a string up to its closing quote, after `skip` characters. -/
def stringBody : Nat → List Char → Except Fault (List Char × List Char)
  | _, [] => .error .endInString
  | skip + 1, _ :: rest => stringBody skip rest
  | 0, c :: rest =>
    if c = '"' then .ok ([], rest)
    else if c = '\\' then
      match unescape rest with
      | .error fault => .error fault
      | .ok (d, n) => push d (stringBody n rest)
    else if c.toNat < 0x20 then .error .controlCharacter
    else push c (stringBody 0 rest)

/-- The rest after the closing quote of a string whose content does not matter, after
`skip` characters. -/
def skipStringBody : Nat → List Char → Except Fault (List Char)
  | _, [] => .error .endInString
  | skip + 1, _ :: rest => skipStringBody skip rest
  | 0, c :: rest =>
    if c = '"' then .ok rest
    else if c = '\\' then
      match rest with
      | [] => .error .endInString
      | 'u' :: quad =>
        match hexQuad quad with
        | .error fault => .error fault
        | .ok _ => skipStringBody 5 rest
      | d :: _ =>
        if d ∈ ['"', '\\', '/', 'b', 'f', 'n', 'r', 't'] then skipStringBody 1 rest
        else .error .invalidEscape
    else if c.toNat < 0x20 then .error .controlCharacter
    else skipStringBody 0 rest

/-- The string whose opening quote has been read. -/
def stringRest : Reader String := fun cs =>
  (stringBody 0 cs).map fun r => (String.ofList r.1, r.2)

/-! ## Numbers -/

/-- A number as the document spells it. -/
structure Numeral where
  negative : Bool
  whole : List Char
  fraction : Option (List Char)
  power : Option Int

/-- The value of decimal digits. -/
def digitsValue (ds : List Char) : Nat :=
  ds.foldl (fun n d => 10 * n + (d.toNat - 0x30)) 0

/-- The digits at the front. -/
def leadingDigits (cs : List Char) : List Char := cs.takeWhile Char.isDigit

/-- The whole part of a number. -/
def wholePart : Reader (List Char)
  | [] => .error .endInValue
  | '0' :: rest =>
    if (leadingDigits rest).isEmpty then .ok (['0'], rest) else .error .invalidNumber
  | cs =>
    if (leadingDigits cs).isEmpty then .error .invalidNumber
    else .ok (leadingDigits cs, cs.dropWhile Char.isDigit)

/-- The digits that must come next. -/
def someDigits : Reader (List Char)
  | [] => .error .endInValue
  | cs =>
    if (leadingDigits cs).isEmpty then .error .invalidNumber
    else .ok (leadingDigits cs, cs.dropWhile Char.isDigit)

/-- The fraction of a number, if it has one. -/
def fractionPart : Reader (Option (List Char))
  | '.' :: rest => (someDigits rest).map fun r => (some r.1, r.2)
  | cs => .ok (none, cs)

/-- The exponent of a number, if it has one. -/
def exponentPart : Reader (Option Int)
  | c :: rest =>
    if c = 'e' ∨ c = 'E' then
      match rest with
      | '+' :: rest => (someDigits rest).map fun r => (some (digitsValue r.1), r.2)
      | '-' :: rest => (someDigits rest).map fun r => (some (-(digitsValue r.1 : Int)), r.2)
      | rest => (someDigits rest).map fun r => (some (digitsValue r.1), r.2)
    else .ok (none, c :: rest)
  | [] => .ok (none, [])

/-- The parts of a number after its sign. -/
def numeralRest (negative : Bool) : Reader Numeral := fun cs => do
  let (whole, cs) ← wholePart cs
  let (fraction, cs) ← fractionPart cs
  let (power, cs) ← exponentPart cs
  return (⟨negative, whole, fraction, power⟩, cs)

/-- The parts of a number. -/
def numeral : Reader Numeral
  | '-' :: rest => numeralRest true rest
  | cs => numeralRest false cs

/-- The integer that a number without fraction and exponent denotes, if it fits 64 bits;
a negative zero is no integer. -/
def Numeral.integer? (n : Numeral) : Option Int :=
  match n.fraction, n.power with
  | none, none =>
    let value := digitsValue n.whole
    if n.negative then
      if value ≠ 0 ∧ value ≤ UInt64.size / 2 then some (-(value : Int)) else none
    else if value < UInt64.size then some value else none
  | _, _ => none

/-- The significand after as many of the digits as fit 64 bits together with the digits
before them, and their number. -/
def keepDigits (significand : Nat) : List Char → Nat × Nat
  | [] => (significand, 0)
  | d :: ds =>
    let extended := digitsValue [d] + 10 * significand
    if extended < UInt64.size then
      let (result, count) := keepDigits extended ds
      (result, count + 1)
    else (significand, 0)

/-- The floating point number that a number denotes, unless it is out of range.  Digits that
are left out of the significand count as places before the point and as nothing after it. -/
def Numeral.float? (n : Numeral) : Option Binary64 :=
  let (significand, wholeCount) := keepDigits 0 n.whole
  let (significand, fractionCount) := keepDigits significand (n.fraction.getD [])
  let places : Int := n.whole.length - wholeCount - fractionCount
  Binary64.ofScaled? n.negative significand (n.power.getD 0 + places)

/-- The value that a number denotes. -/
def Numeral.value (n : Numeral) : Except Fault Json :=
  match n.integer? with
  | some i => .ok (.int i)
  | none =>
    match n.float? with
    | some x => .ok (.float x)
    | none => .error .numberOutOfRange

/-- A number. -/
def number : Reader Json := fun cs => do
  let (n, rest) ← numeral cs
  let value ← n.value
  return (value, rest)

end EntityMapping.Json
