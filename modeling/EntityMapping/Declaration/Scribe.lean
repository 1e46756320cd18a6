import EntityMapping.Declaration.Token

/-!
# Scribes

A scribe reads tokens from the front of a sequence and writes down how what it read is
spelled.  Marks are read one character at a time and written as the operators that they make
up; what is copied as it stands keeps its marks.

Definitions:

- `Scribe`: what is left to read and what was written.
- `copy`, `copyGroup`, `verbatim`: what is copied as it stands.
- `commaList`, `angled`, `arranged`: lists, which may be written in another order.
-/

namespace EntityMapping.Declaration

/-- What lies before a scribe: the tokens to read, and the written ones, last one first. -/
structure Desk where
  rest : Tokens
  written : Tokens

/-- A scribe, which gives up where it cannot read on. -/
abbrev Scribe := StateT Desk Option

/-! ## Fronts of sequences -/

/-- Whether the token is the mark of one character, joined to the next one or not. -/
def Token.isMark (c : Char) : Token → Bool
  | mark s => s == String.singleton c
  | joined s => s == String.singleton c
  | _ => false

/-- Whether the tokens begin with the characters of an operator, joined to each other. -/
def beginsWith : List Char → Tokens → Bool
  | [], _ => true
  | [c], t :: _ => t.isMark c
  | c :: cs, .joined s :: ts => s == String.singleton c && beginsWith cs ts
  | _, _ => false

/-- Whether the tokens begin with an operator. -/
def seesMark (operator : String) (ts : Tokens) : Bool := beginsWith operator.toList ts

/-- Whether the tokens begin with a word. -/
def seesWord (word : String) (ts : Tokens) : Bool := ts.head? == some (.name word)

/-- Whether the tokens begin with an opening bracket. -/
def seesOpening (b : Bracket) (ts : Tokens) : Bool := ts.head? == some (.opening b)

/-- Whether the tokens end here, or the innermost brackets do. -/
def seesEnd : Tokens → Bool
  | [] => true
  | .closing _ :: _ => true
  | _ => false

/-- Whether the tokens begin with a lifetime. -/
def seesLifetime : Tokens → Bool
  | .lifetime _ :: _ => true
  | _ => false

/-- The tokens up to the bracket that closes the innermost ones, and those after it; `depth`
counts the brackets opened since. -/
def splitGroup : Nat → Tokens → Option (Tokens × Tokens)
  | _, [] => none
  | 0, .closing b :: rest => some ([.closing b], rest)
  | depth + 1, .closing b :: rest =>
    (splitGroup depth rest).map fun r => (.closing b :: r.1, r.2)
  | depth, .opening b :: rest =>
    (splitGroup (depth + 1) rest).map fun r => (.opening b :: r.1, r.2)
  | depth, t :: rest => (splitGroup depth rest).map fun r => (t :: r.1, r.2)

namespace Scribe

/-! ## Steps -/

/-- The tokens to read. -/
def rest : Scribe Tokens := return (← get).rest

/-- Whether the tokens to read are as asked. -/
def sees (p : Tokens → Bool) : Scribe Bool := return p (← rest)

/-- Give up unless the tokens to read are as asked. -/
def expect (p : Tokens → Bool) : Scribe Unit := do
  if ← sees p then pure () else failure

/-- Write a token. -/
def write (t : Token) : Scribe Unit :=
  modify fun d => { d with written := t :: d.written }

/-- Write tokens. -/
def writeAll (ts : Tokens) : Scribe Unit :=
  modify fun d => { d with written := ts.reverse ++ d.written }

/-- Read a token. -/
def next : Scribe Token := do
  match ← rest with
  | [] => failure
  | t :: rest =>
    modify fun d => { d with rest }
    return t

/-- Read a token and write it. -/
def copy : Scribe Unit := do write (← next)

/-- Read an operator. -/
def drop (operator : String) : Scribe Unit := do
  expect (seesMark operator)
  modify fun d => { d with rest := d.rest.drop operator.length }

/-- Read an operator and write it. -/
def mark (operator : String) : Scribe Unit := do
  drop operator
  write (.mark operator)

/-- Read and write an operator if it comes next. -/
def mark? (operator : String) : Scribe Bool := do
  if ← sees (seesMark operator) then
    mark operator
    return true
  else return false

/-- Read and write a word. -/
def word (w : String) : Scribe Unit := do
  expect (seesWord w)
  copy

/-- Read and write a word if it comes next. -/
def word? (w : String) : Scribe Bool := do
  if ← sees (seesWord w) then
    copy
    return true
  else return false

/-- Read and write a lifetime. -/
def lifetime : Scribe Unit := do
  expect seesLifetime
  copy

/-- Read and write brackets with a content. -/
def enclosed (b : Bracket) (content : Scribe α) : Scribe α := do
  expect (seesOpening b)
  copy
  let a ← content
  expect fun ts => ts.head? == some (.closing b)
  copy
  return a

/-- Copy brackets with whatever they hold. -/
def copyGroup : Scribe Unit := do
  match ← rest with
  | .opening b :: ts =>
    match splitGroup 0 ts with
    | some (inside, rest) =>
      modify fun d => { d with rest }
      writeAll (.opening b :: inside)
    | none => failure
  | _ => failure

/-! ## Combinations -/

/-- What a scribe writes, set aside. -/
def aside (s : Scribe α) : Scribe (α × Tokens) := do
  let before ← get
  set { before with written := [] }
  let a ← s
  let after ← get
  set { after with written := before.written }
  return (a, after.written.reverse)

/-- Read as a scribe does, but copy the tokens as they stand if it says so. -/
def verbatimIf (s : Scribe Bool) : Scribe Unit := do
  let before ← rest
  let (asTheyStand, tokens) ← aside s
  let after ← rest
  writeAll (if asTheyStand then before.take (before.length - after.length) else tokens)

/-- Read as a scribe does, but copy the tokens as they stand. -/
def verbatim (s : Scribe Unit) : Scribe Unit := verbatimIf do
  s
  return true

/-- Repeat a step as long as it says so, at most `n` times. -/
def iterate (step : Scribe Bool) : Nat → Scribe Unit
  | 0 => pure ()
  | n + 1 => do
    if ← step then iterate step n

/-- Repeat a step that reads something as long as it says so. -/
def repeatWhile (step : Scribe Bool) : Scribe Unit := do
  iterate step ((← rest).length + 1)

/-- Items with commas between them, and perhaps one after the last, up to an end. -/
def commaList (atEnd : Tokens → Bool) (item : Scribe Unit) : Scribe Unit :=
  repeatWhile do
    if ← sees atEnd then return false
    else
      item
      if ← sees atEnd then return false
      else
        mark ","
        return true

/-! ## Angle brackets -/

/-- An item of a list in angle brackets: whether it is a lifetime, its tokens, and whether a
comma follows it. -/
structure Listed where
  isLifetime : Bool
  tokens : Tokens
  comma : Bool

/-- The item with its comma. -/
def Listed.written (i : Listed) : Tokens := i.tokens ++ if i.comma then [.mark ","] else []

/-- The items in the order in which they are written: lifetimes first. -/
def arranged (items : List Listed) : Tokens :=
  let lifetimes := items.filter (·.isLifetime)
  let others := items.filter fun i => !i.isLifetime
  let ended := (lifetimes.getLast?.map (·.comma)).getD true
  let between : Tokens := if others.isEmpty || ended then [] else [.mark ","]
  lifetimes.flatMap Listed.written ++ between ++ others.flatMap Listed.written

/-- Read the items before a closing angle bracket, at most `n`; an item tells whether it is a
lifetime. -/
def listedItems (item : Scribe (Bool × α)) : Nat → Scribe (List (Listed × α))
  | 0 => failure
  | n + 1 => do
    if ← sees (seesMark ">") then return []
    else
      let ((isLifetime, a), tokens) ← aside item
      if ← sees (seesMark ">") then return [(⟨isLifetime, tokens, false⟩, a)]
      else
        drop ","
        return (⟨isLifetime, tokens, true⟩, a) :: (← listedItems item n)

/-- Items in angle brackets, written with lifetimes first; the results are in the order of
reading. -/
def angled (item : Scribe (Bool × α)) : Scribe (List α) := do
  mark "<"
  let items ← listedItems item ((← rest).length + 1)
  writeAll (arranged (items.map (·.1)))
  mark ">"
  return items.map (·.2)

/-! ## Results -/

/-- The result of a scribe that reads all tokens, with what it wrote. -/
def complete? (s : Scribe α) (ts : Tokens) : Option (α × Tokens) :=
  match s.run ⟨ts, []⟩ with
  | some (a, ⟨[], written⟩) => some (a, written.reverse)
  | _ => none

/-! ## Laws -/

end Scribe

end EntityMapping.Declaration
