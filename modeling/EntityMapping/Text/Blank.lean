/-!
# Blanks

The characters with the Unicode property White_Space, and texts without blanks at their
ends.  The zero width space and the byte order mark are no blanks.

Main results:

- `trim_of_not_isBlank`: a text without blanks is trimmed already.
-/

namespace EntityMapping.Text

/-- Whether the character has the property White_Space. -/
def isBlank (c : Char) : Bool :=
  let n := c.toNat
  (0x09 ≤ n && n ≤ 0x0D) || n == 0x20 || n == 0x85 || n == 0xA0 || n == 0x1680 ||
    (0x2000 ≤ n && n ≤ 0x200A) || n == 0x2028 || n == 0x2029 || n == 0x202F || n == 0x205F ||
    n == 0x3000

/-- The characters without the blanks before the first and after the last one. -/
def trimList (cs : List Char) : List Char :=
  ((cs.dropWhile isBlank).reverse.dropWhile isBlank).reverse

/-- The text without blanks at its ends. -/
def trim (s : String) : String :=
  String.ofList (trimList s.toList)

/-- The text with an underscore in place of each separator. -/
def underscored (separators : List Char) (s : String) : String :=
  String.ofList (s.toList.map fun c => if c ∈ separators then '_' else c)

/-- No blanks are dropped if there are none. -/
theorem dropWhile_isBlank_of_all {cs : List Char} (h : ∀ c ∈ cs, isBlank c = false) :
    cs.dropWhile isBlank = cs := by
  cases cs with
  | nil => rfl
  | cons c rest => simp [h c]

/-- Characters of which none is a blank stay when trimmed. -/
theorem trimList_of_all {cs : List Char} (h : ∀ c ∈ cs, isBlank c = false) :
    trimList cs = cs := by
  rw [trimList, dropWhile_isBlank_of_all h,
    dropWhile_isBlank_of_all (fun c hc => h c (List.mem_reverse.mp hc)), List.reverse_reverse]

/-- A text without blanks is trimmed already. -/
theorem trim_of_not_isBlank {s : String} (h : ∀ c ∈ s.toList, isBlank c = false) :
    trim s = s := by
  rw [trim, trimList_of_all h, String.ofList_toList]

end EntityMapping.Text
