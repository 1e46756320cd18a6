import EntityMapping.Text.LetterCase
import EntityMapping.Text.Quoted

/-!
# Snake case

A name in snake case: its words in lower case, joined by underscores.  A word ends at an
underscore, between a lower and an upper case letter, before the last capital of a run that
a lower case letter follows, and between a letter and a digit.  A mark belongs to the
character before it, and a leading sign to the one after it.

Definitions:

- `words`: the words of a name.
- `snake`: the name in snake case.
-/

namespace EntityMapping.Text

/-- A character with the marks and signs that stay with it. -/
abbrev Cluster := List Char

/-- Whether the character stays with the one before it. -/
def staysBefore (c : Char) : Bool :=
  isExtender c || inRanges joiningRanges c || inRanges spacingRanges c

/-- Whether the character stays with the one after it. -/
def staysAfter (c : Char) : Bool := inRanges leadingRanges c

/-- Put each character with those that stay with it. -/
def clusters : List Char → List Cluster
  | [] => []
  | c :: rest =>
    match clusters rest with
    | [] => [[c]]
    | next :: others =>
      if staysAfter c || (next.head?.map staysBefore).getD false then (c :: next) :: others
      else [c] :: next :: others

/-- What the word rule sees in a cluster. -/
inductive LetterClass
  | lowerLetter
  | upperLetter
  | digit
  | underscore
  | other
deriving DecidableEq

/-- The class of a cluster. -/
def classify (g : Cluster) : LetterClass :=
  let up := g.flatMap upperChar
  let low := lowerAfter [] g
  if g = ['_'] then .underscore
  else if g.all Char.isDigit then .digit
  else if up = low then .other
  else if g = low then .lowerLetter
  else if g = up then .upperLetter
  else .other

/-- Whether a word ends between the first and the second of the classes. -/
def endsWord : List LetterClass → Bool
  | .lowerLetter :: .upperLetter :: _ => true
  | .upperLetter :: .upperLetter :: .lowerLetter :: _ => true
  | .lowerLetter :: .digit :: _ => true
  | .upperLetter :: .digit :: _ => true
  | .digit :: .lowerLetter :: _ => true
  | .digit :: .upperLetter :: _ => true
  | _ => false

/-- The words of a name, the first of which begins with `word`, given last cluster first. -/
def wordsFrom (word : List Cluster) : List Cluster → List (List Char)
  | [] => [word.reverse.flatten]
  | g :: rest =>
    if classify g = .underscore then word.reverse.flatten :: wordsFrom [] rest
    else if endsWord (((g :: rest).take 3).map classify) then
      (g :: word).reverse.flatten :: wordsFrom [] rest
    else wordsFrom (g :: word) rest

/-- The words of a name. -/
def words (s : String) : List (List Char) :=
  wordsFrom [] (clusters s.toList)

/-- The name in snake case. -/
def snake (s : String) : String :=
  String.intercalate "_" ((words s).map fun w => String.ofList (lowerAfter [] w))

end EntityMapping.Text
