import EntityMapping.Json.Lexeme

/-!
# Readers of JSON documents

A document is read as a value of an expected type, and the first fault from left to right
wins, whether it is one of syntax or one of content.  A record may be an object or the array
of its fields in declaration order.

Definitions:

- `readString`, `readBool`, `readNatural`, `readVariant`, `readList`: readers of values.
- `Record`, `Record.read`: a record as an object or an array.
- `readValue`: any value, in normal form.
- `document`: a reader on a whole document.
-/

namespace EntityMapping.Json

/-! ## Kinds -/

/-- The fault of meeting the value at the front where another kind is expected. -/
def mismatch (expected : String) (cs : List Char) : Fault :=
  let wrong (found : String) : Fault := .invalidType found expected
  match cs with
  | 'n' :: rest =>
    match word ['u', 'l', 'l'] rest with
    | .error fault => fault
    | .ok _ => wrong "null"
  | 't' :: rest =>
    match word ['r', 'u', 'e'] rest with
    | .error fault => fault
    | .ok _ => wrong "boolean `true`"
  | 'f' :: rest =>
    match word ['a', 'l', 's', 'e'] rest with
    | .error fault => fault
    | .ok _ => wrong "boolean `false`"
  | '"' :: rest =>
    match stringRest rest with
    | .error fault => fault
    | .ok (s, _) => wrong (describeString s)
  | '[' :: _ => wrong "sequence"
  | '\x7b' :: _ => wrong "map"
  | c :: _ =>
    if c = '-' ∨ c.isDigit then
      match number cs with
      | .error fault => fault
      | .ok (.int n, _) => wrong (describeInt n)
      | .ok (.float x, _) => wrong ("floating point `" ++ x.text ++ "`")
      | .ok _ => .expectedValue
    else .expectedValue
  | [] => .endInValue

/-! ## Values -/

/-- A string, where `expected` is wanted. -/
def readText (expected : String) : Reader String := fun cs =>
  match skipBlank cs with
  | '"' :: rest => stringRest rest
  | rest => .error (mismatch expected rest)

/-- A string. -/
def readString : Reader String := readText "a string"

/-- A truth value. -/
def readBool : Reader Bool := fun cs =>
  match skipBlank cs with
  | 't' :: rest => (word ['r', 'u', 'e'] rest).map fun rest => (true, rest)
  | 'f' :: rest => (word ['a', 'l', 's', 'e'] rest).map fun rest => (false, rest)
  | rest => .error (mismatch "a boolean" rest)

/-- A null. -/
def readNull : Reader Unit := fun cs =>
  match skipBlank cs with
  | 'n' :: rest => (word ['u', 'l', 'l'] rest).map fun rest => ((), rest)
  | rest => .error (mismatch "unit" rest)

/-- A natural number of 64 bits. -/
def readNatural : Reader Nat := fun cs =>
  match skipBlank cs with
  | [] => .error .endInValue
  | c :: rest =>
    if c = '-' ∨ c.isDigit then
      match number (c :: rest) with
      | .error fault => .error fault
      | .ok (.int n, rest) =>
        if 0 ≤ n then .ok (n.toNat, rest) else .error (.invalidValue (describeInt n) "u64")
      | .ok (.float x, _) => .error (.invalidType ("floating point `" ++ x.text ++ "`") "u64")
      | .ok _ => .error .expectedValue
    else .error (mismatch "u64" (c :: rest))

/-! ## Punctuation -/

/-- The rest after the colon between a key and its value. -/
def colon (cs : List Char) : Except Fault (List Char) :=
  match skipBlank cs with
  | [] => .error .endInObject
  | ':' :: rest => .ok rest
  | _ => .error .expectedColon

/-- Whether an array has a further item, and where it begins. -/
def nextItem (first : Bool) : Reader Bool := fun cs =>
  match skipBlank cs with
  | [] => .error .endInList
  | ']' :: rest => .ok (false, ']' :: rest)
  | c :: rest =>
    if first then .ok (true, c :: rest)
    else if c = ',' then
      match skipBlank rest with
      | [] => .error .endInValue
      | ']' :: _ => .error .trailingComma
      | rest => .ok (true, rest)
    else .error .expectedListEnd

/-- The rest after an array that should end here. -/
def endList (cs : List Char) : Except Fault (List Char) :=
  match skipBlank cs with
  | [] => .error .endInList
  | ']' :: rest => .ok rest
  | ',' :: rest =>
    match skipBlank rest with
    | ']' :: _ => .error .trailingComma
    | _ => .error .trailingCharacters
  | _ => .error .trailingCharacters

/-- The next key of an object, if it has one. -/
def nextKey (first : Bool) : Reader (Option String) := fun cs =>
  let key (cs : List Char) : Except Fault (Option String × List Char) :=
    (stringRest cs).map fun r => (some r.1, r.2)
  match skipBlank cs with
  | [] => .error .endInObject
  | '\x7d' :: rest => .ok (none, '\x7d' :: rest)
  | c :: rest =>
    if first then if c = '"' then key rest else .error .keyNotString
    else if c = ',' then
      match skipBlank rest with
      | [] => .error .endInValue
      | '"' :: rest => key rest
      | '\x7d' :: _ => .error .trailingComma
      | _ => .error .keyNotString
    else .error .expectedObjectEnd

/-- The rest after an object that should end here. -/
def endObject (cs : List Char) : Except Fault (List Char) :=
  match skipBlank cs with
  | [] => .error .endInObject
  | '\x7d' :: rest => .ok rest
  | ',' :: _ => .error .trailingComma
  | _ => .error .trailingCharacters

/-! ## Lists -/

/-- The items of an array whose opening bracket has been read; `fuel` bounds their number. -/
def itemsRest (item : Reader α) : Nat → Bool → Reader (List α)
  | 0, _, _ => .error .endInList
  | fuel + 1, first, cs => do
    let (more, cs) ← nextItem first cs
    if more then
      let (a, cs) ← item cs
      let (as, cs) ← itemsRest item fuel false cs
      return (a :: as, cs)
    else return ([], cs)

/-- An array of values. -/
def readList (item : Reader α) : Reader (List α) := fun cs =>
  match skipBlank cs with
  | [] => .error .endInValue
  | '[' :: rest => do
    let (as, rest) ← itemsRest item (rest.length + 1) true rest
    let rest ← endList rest
    return (as, rest)
  | rest => .error (mismatch "a sequence" rest)

/-! ## Skipped values -/

mutual

/-- The rest after a value that does not matter; `fuel` bounds the number of steps. -/
def skipValue : Nat → List Char → Except Fault (List Char)
  | 0, _ => .error .endInValue
  | fuel + 1, cs =>
    match skipBlank cs with
    | [] => .error .endInValue
    | 'n' :: rest => word ['u', 'l', 'l'] rest
    | 't' :: rest => word ['r', 'u', 'e'] rest
    | 'f' :: rest => word ['a', 'l', 's', 'e'] rest
    | '"' :: rest => skipStringBody 0 rest
    | '[' :: rest =>
      match skipBlank rest with
      | [] => .error .endInList
      | ']' :: rest => .ok rest
      | rest => skipItems fuel rest
    | '\x7b' :: rest =>
      match skipBlank rest with
      | [] => .error .endInObject
      | '\x7d' :: rest => .ok rest
      | rest => skipMembers fuel rest
    | c :: rest =>
      if c = '-' ∨ c.isDigit then
        match numeral (c :: rest) with
        | .error .endInValue => .error .invalidNumber
        | .error fault => .error fault
        | .ok (_, rest) => .ok rest
      else .error .expectedValue

/-- The rest after the items of an array that has at least one. -/
def skipItems : Nat → List Char → Except Fault (List Char)
  | 0, _ => .error .endInList
  | fuel + 1, cs => do
    let cs ← skipValue fuel cs
    match skipBlank cs with
    | [] => .error .endInList
    | ']' :: rest => .ok rest
    | ',' :: rest => skipItems fuel rest
    | _ => .error .expectedListEnd

/-- The rest after the members of an object that has at least one. -/
def skipMembers : Nat → List Char → Except Fault (List Char)
  | 0, _ => .error .endInObject
  | fuel + 1, cs =>
    match skipBlank cs with
    | [] => .error .endInObject
    | '"' :: rest => do
      let rest ← skipStringBody 0 rest
      let rest ← colon rest
      let rest ← skipValue fuel rest
      match skipBlank rest with
      | [] => .error .endInObject
      | '\x7d' :: rest => .ok rest
      | ',' :: rest => skipMembers fuel rest
      | _ => .error .expectedObjectEnd
    | _ => .error .keyNotString

end

/-- The rest after any value. -/
def skipAny (cs : List Char) : Except Fault (List Char) :=
  skipValue (2 * cs.length + 2) cs

/-! ## Variants -/

/-- The variant with a given name. -/
def variantNamed (variants : List (String × α)) (name : String) : Except Fault α :=
  match variants.find? (·.1 == name) with
  | some v => .ok v.2
  | none => .error (.unknownVariant name (variants.map (·.1)))

/-- The key of an object that holds a variant. -/
def variantKey : Reader String := fun cs =>
  match skipBlank cs with
  | [] => .error .endInObject
  | '"' :: rest => stringRest rest
  | '\x7d' :: _ => .error .expectedValue
  | _ => .error .keyNotString

/-- One of the named variants: its name, or an object with that single key and a null. -/
def readVariant (variants : List (String × α)) : Reader α := fun cs =>
  match skipBlank cs with
  | [] => .error .endInValue
  | '"' :: rest => do
    let (name, rest) ← stringRest rest
    let a ← variantNamed variants name
    return (a, rest)
  | '\x7b' :: rest => do
    let (name, rest) ← variantKey rest
    let a ← variantNamed variants name
    let rest ← colon rest
    let ((), rest) ← readNull rest
    match skipBlank rest with
    | [] => .error .endInObject
    | '\x7d' :: rest => return (a, rest)
    | _ => .error .expectedValue
  | _ => .error .expectedValue

/-! ## Records -/

/-- A field of a record that is read into a state: whether the state has it already, and how
its value is read. -/
structure Field (σ : Type) where
  name : String
  isSet : σ → Bool
  read : σ → Reader σ

/-- A field kept in an optional place of the state. -/
def Field.slot (name : String) (get : σ → Option α) (put : σ → α → σ) (value : Reader α) :
    Field σ :=
  { name
    isSet := fun s => (get s).isSome
    read := fun s cs => (value cs).map fun r => (put s r.1, r.2) }

/-- A record that is read into a state, starting at `start`: its name and fields, whether
other keys are refused, and whether an array may leave out its last fields. -/
structure Record (σ : Type) where
  name : String
  fields : List (Field σ)
  start : σ
  strict : Bool
  short : Bool

/-- The members of a record whose opening brace has been read; `fuel` bounds their
number. -/
def Record.members (r : Record σ) : Nat → Bool → σ → Reader σ
  | 0, _, _, _ => .error .endInObject
  | fuel + 1, first, s, cs => do
    let (key, cs) ← nextKey first cs
    match key with
    | none => return (s, cs)
    | some key =>
      match r.fields.find? (·.name == key) with
      | some field =>
        if field.isSet s then .error (.duplicateField key)
        else
          let cs ← colon cs
          let (s, cs) ← field.read s cs
          r.members fuel false s cs
      | none =>
        if r.strict then .error (.unknownField key (r.fields.map (·.name)))
        else
          let cs ← colon cs
          let cs ← skipAny cs
          r.members fuel false s cs

/-- The fields of a record as the items of an array whose opening bracket has been read,
`count` of them read before. -/
def Record.items (r : Record σ) : List (Field σ) → Nat → σ → Reader σ
  | [], _, s, cs => .ok (s, cs)
  | field :: fields, count, s, cs => do
    let (more, cs) ← nextItem (count == 0) cs
    if more then
      let (s, cs) ← field.read s cs
      r.items fields (count + 1) s cs
    else if r.short then return (s, cs)
    else
      .error (.invalidLength count
        ("struct " ++ r.name ++ " with " ++ toString r.fields.length ++ " elements"))

/-- A record: an object, or the array of its fields in declaration order.  What was read is
completed by `finish` before the closing bracket. -/
def Record.read (r : Record σ) (finish : σ → Except Fault α) : Reader α := fun cs =>
  match skipBlank cs with
  | [] => .error .endInValue
  | '[' :: rest => do
    let (s, rest) ← r.items r.fields 0 r.start rest
    let a ← finish s
    let rest ← endList rest
    return (a, rest)
  | '\x7b' :: rest => do
    let (s, rest) ← r.members (rest.length + 1) true r.start rest
    let a ← finish s
    let rest ← endObject rest
    return (a, rest)
  | rest => .error (mismatch ("struct " ++ r.name) rest)

/-- The value of a field that must be there. -/
def required (name : String) : Option α → Except Fault α
  | some a => .ok a
  | none => .error (.missingField name)

/-! ## Any value -/

mutual

/-- Any value; `fuel` bounds the number of steps. -/
def valueWith : Nat → Reader Json
  | 0, _ => .error .endInValue
  | fuel + 1, cs =>
    match skipBlank cs with
    | [] => .error .endInValue
    | 'n' :: rest => (word ['u', 'l', 'l'] rest).map fun rest => (.null, rest)
    | 't' :: rest => (word ['r', 'u', 'e'] rest).map fun rest => (.bool true, rest)
    | 'f' :: rest => (word ['a', 'l', 's', 'e'] rest).map fun rest => (.bool false, rest)
    | '"' :: rest => (stringRest rest).map fun r => (.string r.1, r.2)
    | '[' :: rest => do
      let (items, rest) ← arrayWith fuel true rest
      let rest ← endList rest
      return (.array items, rest)
    | '\x7b' :: rest => do
      let (members, rest) ← objectWith fuel true [] rest
      let rest ← endObject rest
      return (.object members, rest)
    | c :: rest =>
      if c = '-' ∨ c.isDigit then number (c :: rest) else .error .expectedValue

/-- The items of an array. -/
def arrayWith : Nat → Bool → Reader (List Json)
  | 0, _, _ => .error .endInList
  | fuel + 1, first, cs => do
    let (more, cs) ← nextItem first cs
    if more then
      let (item, cs) ← valueWith fuel cs
      let (items, cs) ← arrayWith fuel false cs
      return (item :: items, cs)
    else return ([], cs)

/-- The members of an object, added to those read before. -/
def objectWith : Nat → Bool → List (String × Json) → Reader (List (String × Json))
  | 0, _, _, _ => .error .endInObject
  | fuel + 1, first, members, cs => do
    let (key, cs) ← nextKey first cs
    match key with
    | none => return (members, cs)
    | some key =>
      let cs ← colon cs
      let (value, cs) ← valueWith fuel cs
      objectWith fuel false (Entries.insert key value members) cs

end

/-- Any value, in normal form. -/
def readValue : Reader Json := fun cs => valueWith (2 * cs.length + 2) cs

/-! ## Documents -/

/-- Read a whole document. -/
def document (read : Reader α) (text : String) : Except Fault α := do
  let (a, rest) ← read text.toList
  match skipBlank rest with
  | [] => return a
  | _ => .error .trailingCharacters

end EntityMapping.Json
