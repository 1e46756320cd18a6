import EntityMapping.Text.CaseTable
import EntityMapping.Text.CharTable

/-!
# Upper and lower case of a text

Full case conversion: a character may become several (`ß` gives `SS`), and a capital sigma
becomes the final form when a cased letter stands before it and none after it.

Main results:

- `toList_upper`: the upper case of a text is made character by character.
-/

namespace EntityMapping.Text

/-! ## Characters -/

/-- The image of a character under the mapping that the runs and sequences describe. -/
def mapped (runs : List CaseRun) (sequences : List (Nat × List Nat)) (c : Char) : List Char :=
  match sequences.find? (·.1 == c.toNat) with
  | some entry => entry.2.map Char.ofNat
  | none =>
    match runs.find? (·.covers c.toNat) with
    | some run => [Char.ofNat (c.toNat + run.shift).toNat]
    | none => [c]

/-- Upper case of one character. -/
def upperChar (c : Char) : List Char :=
  if c.toNat < 0x80 then [c.toUpper] else mapped upperRuns upperSequences c

/-- Lower case of one character on its own. -/
def lowerChar (c : Char) : List Char :=
  if c.toNat < 0x80 then [c.toLower] else mapped lowerRuns lowerSequences c

/-- A letter with a case. -/
def isCased (c : Char) : Bool :=
  if c.toNat < 0x80 then c.isAlpha else inRanges casedRanges c

/-- A character that the final sigma rule looks past. -/
def isSkippable (c : Char) : Bool :=
  if c.toNat < 0x80 then c == '\'' || c == '.' || c == ':' || c == '^' || c == '\x60'
  else inRanges nonspacingRanges c || inRanges enclosingRanges c || inRanges skippableRanges c

/-! ## Texts -/

/-- Upper case of a text. -/
def upper (s : String) : String :=
  String.ofList (s.toList.flatMap upperChar)

/-- Whether the first character that is not skipped is a cased letter. -/
def startsCased : List Char → Bool
  | [] => false
  | c :: rest => if isSkippable c then startsCased rest else isCased c

/-- Lower case of the characters that follow `before`, which is given last character first. -/
def lowerAfter (before : List Char) : List Char → List Char
  | [] => []
  | c :: rest =>
    (if c = 'Σ' then
        [if startsCased before && !startsCased rest then 'ς' else 'σ']
      else lowerChar c) ++ lowerAfter (c :: before) rest

/-- Lower case of a text. -/
def lower (s : String) : String :=
  String.ofList (lowerAfter [] s.toList)

/-! ## Laws -/

@[simp]
theorem toList_upper (s : String) : (upper s).toList = s.toList.flatMap upperChar := by
  simp [upper]

end EntityMapping.Text
