import EntityMapping.Proofs.Json.Strings

/-!
# Punctuation

What the readers of colons, commas and closing brackets take: blanks may stand on either side of
each mark, a comma stands in front of every item but the first, and none stands in front of a
closing bracket.

Main results:

- `colon_eq_ok_iff`, `endList_eq_ok_iff`: one mark behind blanks.
- `nextKey_cases`, `nextItem_cases`: an object or a list ends, or goes on behind its comma.
-/

namespace EntityMapping.Json

variable {cs rest : List Char} {first : Bool}

/-! ## Marks -/

/-- A colon is taken exactly with blanks in front of it. -/
theorem colon_eq_ok_iff :
    colon cs = .ok rest ↔ ∃ blank, IsBlank blank ∧ cs = blank ++ ':' :: rest := by
  rw [← skipBlank_eq_cons_iff (by decide)]
  unfold colon
  constructor
  · intro h
    split at h
    · cases h
    · next tail hskip =>
      cases h
      exact hskip
    · cases h
  · intro h
    rw [h]
    rfl

/-- The end of a list is taken exactly with blanks in front of it. -/
theorem endList_eq_ok_iff :
    endList cs = .ok rest ↔ ∃ blank, IsBlank blank ∧ cs = blank ++ ']' :: rest := by
  rw [← skipBlank_eq_cons_iff (by decide)]
  unfold endList
  constructor
  · intro h
    split at h
    · cases h
    · next tail hskip =>
      cases h
      exact hskip
    · split at h <;> cases h
    · cases h
  · intro h
    rw [h]
    rfl

/-- What may stand in front of an item: a comma with blanks around it, or blanks in front of the
first one. -/
def Leads : Bool → List Char → Prop
  | true, lead => IsBlank lead
  | false, lead => ∃ gap blank, IsBlank gap ∧ IsBlank blank ∧ lead = gap ++ ',' :: blank

/-- Blanks may be added to what stands in front of an item. -/
theorem Leads.append {lead blank : List Char} (h : Leads first lead) (hblank : IsBlank blank) :
    Leads first (lead ++ blank) := by
  have hjoin {front : List Char} (hfront : IsBlank front) : IsBlank (front ++ blank) := by
    intro c hc
    exact (List.mem_append.mp hc).elim (hfront c) (hblank c)
  cases first with
  | true => exact hjoin h
  | false =>
    obtain ⟨gap, inner, hgap, hinner, rfl⟩ := h
    exact ⟨gap, inner ++ blank, hgap, hjoin hinner, by simp⟩

/-! ## Keys -/

/-- An object ends, or has a further key: a string behind a comma, or the first string. -/
theorem nextKey_cases {key? : Option String} (h : nextKey first cs = .ok (key?, rest)) :
    (∃ blank tail, IsBlank blank ∧ key? = none ∧ rest = '\x7d' :: tail ∧ cs = blank ++ rest) ∨
      ∃ lead text key, Leads first lead ∧ SpellsString text key ∧ key? = some key ∧
        cs = lead ++ (text ++ rest) := by
  have hkey {tail : List Char}
      (h : (stringRest tail).map (fun r => (some r.1, r.2)) = .ok (key?, rest)) :
      ∃ text key, SpellsString text key ∧ key? = some key ∧ '"' :: tail = text ++ rest := by
    obtain ⟨⟨s, rest'⟩, hread, heq⟩ := map_eq_ok.mp h
    cases heq
    obtain ⟨content, rfl, hspells⟩ := stringRest_eq_ok_iff.mp hread
    exact ⟨_, s, ⟨content, rfl, hspells⟩, rfl, by simp⟩
  unfold nextKey at h
  split at h
  · cases h
  · next tail hskip =>
    cases h
    obtain ⟨blank, hblank, rfl⟩ := (skipBlank_eq_cons_iff (by decide)).mp hskip
    exact .inl ⟨blank, tail, hblank, rfl, rfl, rfl⟩
  · next c tail _ hskip =>
    right
    obtain hfirst | hfirst := Bool.eq_false_or_eq_true first
    · rw [if_pos hfirst] at h
      split at h
      · next hquote =>
        subst hquote
        obtain ⟨blank, hblank, rfl⟩ := (skipBlank_eq_cons_iff (by decide)).mp hskip
        obtain ⟨text, key, htext, hsome, heq⟩ := hkey h
        exact ⟨blank, text, key, hfirst ▸ hblank, htext, hsome, by rw [heq]⟩
      · cases h
    · rw [if_neg (by simp [hfirst])] at h
      split at h
      · next hcomma =>
        subst hcomma
        obtain ⟨gap, hgap, rfl⟩ := (skipBlank_eq_cons_iff (by decide)).mp hskip
        split at h
        · cases h
        · next tail hskip =>
          obtain ⟨blank, hblank, rfl⟩ := (skipBlank_eq_cons_iff (by decide)).mp hskip
          obtain ⟨text, key, htext, hsome, heq⟩ := hkey h
          exact ⟨gap ++ ',' :: blank, text, key, hfirst ▸ ⟨gap, blank, hgap, hblank, rfl⟩, htext,
            hsome, by simp [heq]⟩
        · cases h
        · cases h
      · cases h

/-- An object ends at its brace, behind blanks. -/
theorem nextKey_end {blank : List Char} (h : IsBlank blank) :
    nextKey first (blank ++ '\x7d' :: rest) = .ok (none, '\x7d' :: rest) := by
  rw [nextKey, skipBlank_append h, skipBlank_cons (by decide)]
  rfl

/-- An object goes on with a key behind what leads to it. -/
theorem nextKey_lead {lead text : List Char} {key : String} (hlead : Leads first lead)
    (htext : SpellsString text key) :
    nextKey first (lead ++ (text ++ rest)) = .ok (some key, rest) := by
  obtain ⟨content, rfl, hspells⟩ := htext
  have hread : stringRest (content ++ '"' :: rest) = .ok (key, rest) :=
    stringRest_eq_ok_iff.mpr ⟨content, rfl, hspells⟩
  simp only [List.cons_append, List.append_assoc, List.nil_append]
  cases first with
  | true =>
    rw [nextKey, skipBlank_append hlead, skipBlank_cons (by decide)]
    simp [hread, Except.map]
  | false =>
    obtain ⟨gap, blank, hgap, hblank, rfl⟩ := hlead
    rw [List.append_assoc, nextKey, skipBlank_append hgap, List.cons_append,
      skipBlank_cons (by decide)]
    simp [skipBlank_append hblank, skipBlank_cons (by decide : isSpace '"' = false), hread,
      Except.map]

/-! ## Items -/

/-- A list ends, or has a further item behind a comma, or its first one. -/
theorem nextItem_cases {more : Bool} (h : nextItem first cs = .ok (more, rest)) :
    (∃ blank tail, IsBlank blank ∧ more = false ∧ rest = ']' :: tail ∧ cs = blank ++ rest) ∨
      ∃ lead, Leads first lead ∧ more = true ∧ cs = lead ++ rest := by
  unfold nextItem at h
  split at h
  · cases h
  · next tail hskip =>
    cases h
    obtain ⟨blank, hblank, rfl⟩ := (skipBlank_eq_cons_iff (by decide)).mp hskip
    exact .inl ⟨blank, tail, hblank, rfl, rfl, rfl⟩
  · next c tail _ hskip =>
    right
    obtain hfirst | hfirst := Bool.eq_false_or_eq_true first
    · rw [if_pos hfirst] at h
      cases h
      obtain ⟨blank, hblank, heq⟩ := exists_blank cs
      exact ⟨blank, hfirst ▸ hblank, rfl, hskip ▸ heq⟩
    · rw [if_neg (by simp [hfirst])] at h
      split at h
      · next hcomma =>
        subst hcomma
        obtain ⟨gap, hgap, rfl⟩ := (skipBlank_eq_cons_iff (by decide)).mp hskip
        obtain ⟨blank, hblank, heq⟩ := exists_blank tail
        split at h
        · cases h
        · cases h
        · cases h
          refine ⟨gap ++ ',' :: blank, hfirst ▸ ⟨gap, blank, hgap, hblank, rfl⟩, rfl, ?_⟩
          rw [List.append_assoc, List.cons_append, ← heq]
      · cases h

/-- A list ends at its bracket, behind blanks. -/
theorem nextItem_end {blank : List Char} (h : IsBlank blank) :
    nextItem first (blank ++ ']' :: rest) = .ok (false, ']' :: rest) := by
  rw [nextItem, skipBlank_append h, skipBlank_cons (by decide)]
  rfl

/-- A list goes on with a visible character behind what leads to it. -/
theorem nextItem_lead {lead : List Char} {c : Char} (hlead : Leads first lead)
    (hspace : isSpace c = false) (hc : c ≠ ']') :
    nextItem first (lead ++ c :: rest) = .ok (true, c :: rest) := by
  cases first with
  | true =>
    rw [nextItem, skipBlank_append hlead, skipBlank_cons hspace]
    simp
  | false =>
    obtain ⟨gap, blank, hgap, hblank, rfl⟩ := hlead
    rw [List.append_assoc, nextItem, skipBlank_append hgap, List.cons_append,
      skipBlank_cons (by decide)]
    simp [skipBlank_append hblank, skipBlank_cons hspace, hc]

end EntityMapping.Json
