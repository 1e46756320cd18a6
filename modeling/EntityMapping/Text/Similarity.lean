/-!
# Similarity of names

How alike two names are, from zero to one: the shares of their characters that have a partner
nearby in the other name and the share of those in order, raised for a common beginning.  Of
several candidates the one most like a name may be meant by it.

Definitions:

- `similarity`: how alike two names are.
- `closest?`: the candidate most like a name.
-/

namespace EntityMapping.Text

/-! ## Partners -/

/-- The places of the partners in `other` that the characters find, the first of which stands
at `place`.  A partner is equal, at most `reach` places away and not `taken` before. -/
def partnersFrom (reach : Nat) (other : List Char) (taken : List Nat) (place : Nat) :
    List Char → List (Char × Nat)
  | [] => []
  | c :: rest =>
    let near (j : Nat) : Bool := place ≤ j + reach && j ≤ place + reach
    let free (j : Nat) : Bool := other[j]? == some c && !taken.contains j
    match (List.range other.length).find? fun j => near j && free j with
    | some j => (c, j) :: partnersFrom reach other (j :: taken) (place + 1) rest
    | none => partnersFrom reach other taken (place + 1) rest

/-- How far apart partners may stand in names of the given lengths. -/
def partnerReach (m n : Nat) : Nat := max m n / 2 - 1

/-- The number of places at which two sequences differ. -/
def differences (xs ys : List Char) : Nat := (xs.zip ys).countP fun p => p.1 != p.2

/-- The length of the common beginning. -/
def commonStart (xs ys : List Char) : Nat := ((xs.zip ys).takeWhile fun p => p.1 == p.2).length

/-! ## Similarity -/

/-- The mean of the shares of characters with partners and of partners in order. -/
def partnerShare (a b : List Char) : Float :=
  let partners := partnersFrom (partnerReach a.length b.length) b [] 0 a
  let places := partners.map (·.2)
  let others := b.zipIdx.filterMap fun p => if places.contains p.2 then some p.1 else none
  let swaps := differences (partners.map (·.1)) others / 2
  let count := partners.length.toFloat
  if partners.isEmpty then 0
  else
    (count / a.length.toFloat + count / b.length.toFloat +
      (partners.length - swaps).toFloat / count) / 3

/-- How alike two names are.  A common beginning of up to four characters counts only for
names that are alike without it. -/
def similarity (a b : String) : Float :=
  let share := partnerShare a.toList b.toList
  if 0.7 < share then
    share + 0.1 * (min 4 (commonStart a.toList b.toList)).toFloat * (1 - share)
  else share

/-! ## Candidates -/

/-- The best candidate after one more: it takes the place of the best so far if it is more
like the name, and that of none if it is alike by more than four fifths. -/
def better (name : String) (best? : Option String) (candidate : String) : Option String :=
  let score := similarity name candidate
  match best? with
  | none => if 0.8 < score then some candidate else none
  | some best => if similarity name best < score then some candidate else some best

/-- The candidate that a name may have been meant for, the first of equally good ones. -/
def closest? (name : String) (candidates : List String) : Option String :=
  candidates.foldl (better name) none

end EntityMapping.Text
