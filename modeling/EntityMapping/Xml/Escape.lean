/-!
# Attribute values

A text as it stands between the double quotes of an attribute.

Main results:

- `Xml.escape_append`: escaping distributes over concatenation.
- `Xml.mem_escape`: an escaped text holds no angle bracket and no double quote.
-/

namespace EntityMapping.Xml

/-- The character as it stands in an attribute value. -/
def escapeChar (c : Char) : List Char :=
  if c = '&' then ['&', 'a', 'm', 'p', ';']
  else if c = '<' then ['&', 'l', 't', ';']
  else if c = '>' then ['&', 'g', 't', ';']
  else if c = '"' then ['&', 'q', 'u', 'o', 't', ';']
  else [c]

/-- The text as it stands in an attribute value. -/
def escape (s : String) : String :=
  String.ofList (s.toList.flatMap escapeChar)

/-- An attribute with its value, after a blank. -/
def printAttribute (name value : String) : String :=
  " " ++ name ++ "=\"" ++ escape value ++ "\""

/-- An attribute that is left out without a value. -/
def printAttribute? (name : String) : Option String → String
  | some value => printAttribute name value
  | none => ""

/-! ## Laws -/

@[simp]
theorem toList_escape (s : String) : (escape s).toList = s.toList.flatMap escapeChar := by
  simp [escape]

/-- Texts are escaped part by part. -/
theorem escape_append (s t : String) : escape (s ++ t) = escape s ++ escape t := by
  apply String.toList_inj.mp
  simp

/-- What is written for a character has neither angles nor double quotes. -/
theorem mem_escapeChar {c d : Char} (h : d ∈ escapeChar c) :
    d ≠ '<' ∧ d ≠ '>' ∧ d ≠ '"' := by
  unfold escapeChar at h
  split at h
  · simp only [List.mem_cons, List.not_mem_nil, or_false] at h
    rcases h with rfl | rfl | rfl | rfl | rfl <;> decide
  · split at h
    · simp only [List.mem_cons, List.not_mem_nil, or_false] at h
      rcases h with rfl | rfl | rfl | rfl <;> decide
    · split at h
      · simp only [List.mem_cons, List.not_mem_nil, or_false] at h
        rcases h with rfl | rfl | rfl | rfl <;> decide
      · split at h
        · simp only [List.mem_cons, List.not_mem_nil, or_false] at h
          rcases h with rfl | rfl | rfl | rfl | rfl | rfl <;> decide
        · next hlt hgt hquote =>
          obtain rfl : d = c := by simpa using h
          exact ⟨hlt, hgt, hquote⟩

/-- An escaped text has neither angles nor double quotes. -/
theorem mem_escape {s : String} {d : Char} (h : d ∈ (escape s).toList) :
    d ≠ '<' ∧ d ≠ '>' ∧ d ≠ '"' := by
  rw [toList_escape, List.mem_flatMap] at h
  obtain ⟨c, _, hd⟩ := h
  exact mem_escapeChar hd

end EntityMapping.Xml
