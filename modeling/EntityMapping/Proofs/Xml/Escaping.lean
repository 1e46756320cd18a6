import EntityMapping.Xml.Escape

/-!
# Escaped texts

Escaping writes a reference in place of each character that would be markup, the ampersand that
starts references among them.  So every ampersand of an escaped text starts a reference, and
putting the characters back gives the text again, also if the text itself looks like references.

Main results:

- `Xml.unescape_escape`: putting the characters back undoes escaping.
- `Xml.opensReference_of_escape`: every ampersand of an escaped text starts a reference.
- `Xml.escape_reversible`: what an escaped text looks like and that it tells the text.
-/

namespace EntityMapping.Xml

/-! ## References -/

/-- The references of escaped texts and the characters for which they stand. -/
def references : List (List Char × Char) :=
  [("&amp;".toList, '&'), ("&lt;".toList, '<'), ("&gt;".toList, '>'), ("&quot;".toList, '"')]

/-- The value starts with a reference. -/
def OpensReference (value : List Char) : Prop := ∃ r ∈ references, r.1 <+: value

/-- The value with its references replaced by their characters, from the front.  What starts no
reference stays. -/
def resolve : List Char → List Char
  | '&' :: 'a' :: 'm' :: 'p' :: ';' :: rest => '&' :: resolve rest
  | '&' :: 'l' :: 't' :: ';' :: rest => '<' :: resolve rest
  | '&' :: 'g' :: 't' :: ';' :: rest => '>' :: resolve rest
  | '&' :: 'q' :: 'u' :: 'o' :: 't' :: ';' :: rest => '"' :: resolve rest
  | c :: rest => c :: resolve rest
  | [] => []

/-- The text for which a value stands. -/
def unescape (value : String) : String := String.ofList (resolve value.toList)

/-! ## Characters -/

variable {c : Char} {r : List Char × Char}

/-- A character without a meaning in markup is written as it is. -/
theorem escapeChar_of_plain (hamp : c ≠ '&') (hplain : c ≠ '<' ∧ c ≠ '>' ∧ c ≠ '"') :
    escapeChar c = [c] := by
  simp [escapeChar, hamp, hplain]

/-- A character is written as the reference that stands for it, or else as it is. -/
theorem escapeChar_cases (c : Char) :
    (escapeChar c, c) ∈ references ∨ c ≠ '&' ∧ escapeChar c = [c] := by
  by_cases h : c = '&' ∨ c = '<' ∨ c = '>' ∨ c = '"'
  · left
    rcases h with rfl | rfl | rfl | rfl <;> decide
  · right
    obtain ⟨hamp, hplain⟩ : c ≠ '&' ∧ c ≠ '<' ∧ c ≠ '>' ∧ c ≠ '"' := by simpa only [not_or] using h
    exact ⟨hamp, escapeChar_of_plain hamp hplain⟩

/-- A reference has no ampersand but the first character. -/
theorem ampersand_not_mem_tail (hr : r ∈ references) : '&' ∉ r.1.tail := by
  revert r
  decide

/-! ## Putting characters back -/

/-- A reference in front is replaced by its character. -/
theorem resolve_reference (hr : r ∈ references) (rest : List Char) :
    resolve (r.1 ++ rest) = r.2 :: resolve rest := by
  simp only [references, List.mem_cons, List.not_mem_nil, or_false] at hr
  rcases hr with rfl | rfl | rfl | rfl <;> rfl

/-- Any character but an ampersand stays. -/
theorem resolve_cons (hc : c ≠ '&') (rest : List Char) :
    resolve (c :: rest) = c :: resolve rest := by
  rw [resolve.eq_def]
  split <;> simp_all

/-- What is written for a character is replaced by it. -/
theorem resolve_escapeChar (c : Char) (rest : List Char) :
    resolve (escapeChar c ++ rest) = c :: resolve rest := by
  rcases escapeChar_cases c with hr | ⟨hother, hself⟩
  · exact resolve_reference hr rest
  · rw [hself]
    exact resolve_cons hother rest

/-- Putting the characters back undoes escaping. -/
theorem unescape_escape (s : String) : unescape (escape s) = s := by
  have hlists : ∀ cs : List Char, resolve (cs.flatMap escapeChar) = cs := by
    intro cs
    induction cs with
    | nil => rfl
    | cons c rest ih => rw [List.flatMap_cons, resolve_escapeChar, ih]
  rw [unescape, toList_escape, hlists, String.ofList_toList]

/-- Texts that are escaped alike are equal. -/
theorem escape_inj {s t : String} : escape s = escape t ↔ s = t := by
  constructor
  · intro h
    rw [← unescape_escape s, h, unescape_escape]
  · rintro rfl
    rfl

/-! ## Ampersands -/

/-- An ampersand in what is written for a character is the first character of a reference. -/
theorem escapeChar_eq_append_ampersand {before after : List Char}
    (h : escapeChar c = before ++ '&' :: after) : (escapeChar c, c) ∈ references ∧ before = [] := by
  rcases escapeChar_cases c with hr | ⟨hother, hself⟩
  · refine ⟨hr, ?_⟩
    cases before with
    | nil => rfl
    | cons d before =>
      have htail := ampersand_not_mem_tail hr
      simp [h] at htail
  · have hmem : '&' ∈ escapeChar c := by simp [h]
    rw [hself, List.mem_singleton] at hmem
    exact absurd hmem.symm hother

/-- Every ampersand of an escaped text starts a reference. -/
theorem opensReference_of_escape {s : String} {rest : List Char}
    (h : '&' :: rest <:+ (escape s).toList) : OpensReference ('&' :: rest) := by
  rw [toList_escape] at h
  generalize s.toList = cs at h
  induction cs with
  | nil => simp at h
  | cons c cs ih =>
    obtain ⟨before, h⟩ := h
    rw [List.flatMap_cons] at h
    -- The ampersand is in what is written for the first character, or behind it.
    rcases List.append_eq_append_iff.mp h with ⟨inner, hchar, hrest⟩ | ⟨inner, _, hrest⟩
    · cases inner with
      | nil => exact ih ⟨[], hrest⟩
      | cons d inner =>
        obtain ⟨rfl, rfl⟩ := List.cons.inj hrest
        obtain ⟨hr, rfl⟩ := escapeChar_eq_append_ampersand hchar
        exact ⟨_, hr, cs.flatMap escapeChar, by rw [hchar]; rfl⟩
    · exact ih ⟨inner, hrest.symm⟩

/-! ## Escaped texts -/

/-- An escaped text has neither angle brackets nor double quotes, and every ampersand in it starts
one of the four references.  Putting their characters back gives the text, so that texts that are
escaped alike are equal, and joined texts are escaped one after the other. -/
theorem escape_reversible (s : String) :
    ('<' ∉ (escape s).toList ∧ '>' ∉ (escape s).toList ∧ '"' ∉ (escape s).toList) ∧
      (∀ before rest, (escape s).toList = before ++ '&' :: rest → OpensReference ('&' :: rest)) ∧
      unescape (escape s) = s ∧ (∀ t, escape s = escape t ↔ s = t) ∧
      ∀ t, escape (s ++ t) = escape s ++ escape t := by
  refine ⟨⟨fun h => (mem_escape h).1 rfl, fun h => (mem_escape h).2.1 rfl,
    fun h => (mem_escape h).2.2 rfl⟩, fun before rest h => ?_, unescape_escape s,
    fun t => escape_inj, escape_append s⟩
  exact opensReference_of_escape ⟨before, h.symm⟩

/-- A text that looks like references is escaped once more. -/
example : escape "a&lt;\"&amp;\"" = "a&amp;lt;&quot;&amp;amp;&quot;" := by decide

end EntityMapping.Xml
