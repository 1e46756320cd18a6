import EntityMapping.Proofs.Text.Lacking
import Mathlib.Data.List.DropRight

/-!
# Last parts of dotted texts

The last part of a text is what stands behind its last dot, or all of it where there is no dot.
Every text has just one.  A text in front of a dot makes no difference to it.

Main results:

- `LastPart.rtakeWhile_eq`, `LastPart.unique`: the last part is read from the back.
- `exists_lastPart`: every text has one.
- `joined_eq_iff`: when two texts that are joined by a dot are equal.
-/

namespace EntityMapping

/-- The part of a text behind its last dot, or all of a text without dots. -/
def LastPart (text part : String) : Prop :=
  Lacks '.' part ∧ (text = part ∨ ∃ front, text = front ++ "." ++ part)

namespace LastPart

variable {text part : String}

/-- It is what is read from the back up to the first dot. -/
theorem rtakeWhile_eq (h : LastPart text part) :
    text.toList.rtakeWhile (· != '.') = part.toList := by
  have hpart : ∀ c ∈ part.toList, (c != '.') = true := by
    intro c hc
    simpa using fun heq : c = '.' => h.1 (heq ▸ hc)
  rcases h.2 with rfl | ⟨front, rfl⟩
  · exact List.rtakeWhile_eq_self_iff.mpr hpart
  · rw [List.rtakeWhile, String.toList_append, String.toList_append, List.reverse_append,
      List.takeWhile_append_of_pos (by simpa using hpart)]
    simp

/-- A prefix that ends in a dot is left out. -/
theorem behind (h : LastPart text part) (front : String) :
    LastPart (front ++ "." ++ text) part := by
  refine ⟨h.1, .inr ?_⟩
  rcases h.2 with rfl | ⟨inner, rfl⟩
  · exact ⟨front, rfl⟩
  · exact ⟨front ++ "." ++ inner, by simp only [String.append_assoc]⟩

/-- The part is the whole text just if the text has no dot. -/
theorem eq_iff (h : LastPart text part) : part = text ↔ Lacks '.' text := by
  constructor
  · rintro rfl
    exact h.1
  · intro hlacks
    rcases h.2 with rfl | ⟨front, rfl⟩
    · rfl
    · exact absurd hlacks (by simp [Lacks])

end LastPart

/-- Every text has a last part. -/
theorem exists_lastPart (text : String) : ∃ part, LastPart text part := by
  by_cases hdot : Lacks '.' text
  · exact ⟨text, hdot, .inl rfl⟩
  · have hmem : '.' ∈ text.toList.reverse := by simpa [Lacks] using hdot
    obtain ⟨behind, before, hsplit, hbehind⟩ := List.eq_append_cons_of_mem hmem
    refine ⟨String.ofList behind.reverse, by simpa [Lacks] using hbehind, .inr
      ⟨String.ofList before.reverse, ?_⟩⟩
    apply String.toList_inj.mp
    rw [← List.reverse_reverse text.toList, hsplit]
    simp

/-! ## Texts joined by a dot -/

/-- The last part of a text is its only one. -/
theorem LastPart.unique {text a b : String} (ha : LastPart text a) (hb : LastPart text b) :
    a = b :=
  String.toList_inj.mp (ha.rtakeWhile_eq.symm.trans hb.rtakeWhile_eq)

/-- What is before a dot and the same end is told by the whole. -/
theorem append_dot_inj {a b id : String} : a ++ "." ++ id = b ++ "." ++ id ↔ a = b := by
  simp only [← String.toList_inj, String.toList_append, List.append_left_inj]

/-- Where the text behind the dot has no further dot, equal joined texts have equal parts, or else
the other text behind the dot begins with the rest of the first front. -/
theorem joined_eq_iff {a b front id : String} (hid : Lacks '.' id) :
    a ++ "." ++ b = front ++ "." ++ id ↔
      front = a ∧ id = b ∨ ∃ inner, front = a ++ "." ++ inner ∧ b = inner ++ "." ++ id := by
  constructor
  · intro heq
    obtain ⟨part, hpart⟩ := exists_lastPart b
    have hwhole : LastPart (a ++ "." ++ b) id := ⟨hid, .inr ⟨front, heq⟩⟩
    obtain rfl : part = id := (hpart.behind a).unique hwhole
    rcases hpart.2 with rfl | ⟨inner, rfl⟩
    · exact .inl ⟨(append_dot_inj.mp heq).symm, rfl⟩
    · refine .inr ⟨inner, ?_, rfl⟩
      apply append_dot_inj.mp
      rw [← heq]
      simp only [String.append_assoc]
  · rintro (⟨rfl, rfl⟩ | ⟨inner, rfl, rfl⟩)
    · rfl
    · simp only [String.append_assoc]

/-- If neither text behind the dot has a further dot, equal joined texts have equal parts. -/
theorem joined_inj {a b front id : String} (hb : Lacks '.' b) (hid : Lacks '.' id) :
    a ++ "." ++ b = front ++ "." ++ id ↔ front = a ∧ id = b := by
  rw [joined_eq_iff hid, or_iff_left]
  rintro ⟨inner, -, rfl⟩
  simp [Lacks] at hb

end EntityMapping
