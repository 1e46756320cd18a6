import EntityMapping.Proofs.Text.Lacking
import EntityMapping.Text.Blank
import Mathlib.Data.List.DropRight

/-!
# Blanks and letter case

Blanks have no letter case, so they survive a change of it.  A text is trimmed already unless a
blank stands at one of its ends.

Main results:

- `case_of_isBlank`, `mem_lower_of_isBlank`: blanks survive a change of letter case.
- `trim_eq_self_of_ends`: texts that are trimmed already.
- `mem_underscored_upper`, `head?_underscored_upper`, `getLast?_underscored_upper`: what is seen of
  a text in its upper case with underscores.
-/

namespace EntityMapping.Text

/-- The code points of the blanks. -/
def blankCodes : List Nat :=
  [0x09, 0x0A, 0x0B, 0x0C, 0x0D, 0x20, 0x85, 0xA0, 0x1680, 0x2000, 0x2001, 0x2002, 0x2003, 0x2004,
    0x2005, 0x2006, 0x2007, 0x2008, 0x2009, 0x200A, 0x2028, 0x2029, 0x202F, 0x205F, 0x3000]

variable {c : Char} {s : String}

/-- A blank has one of the codes of the list. -/
theorem toNat_mem_blankCodes (h : isBlank c = true) : c.toNat ∈ blankCodes := by
  simp only [isBlank, Bool.or_eq_true, Bool.and_eq_true, decide_eq_true_eq, beq_iff_eq] at h
  simp only [blankCodes, List.mem_cons, List.not_mem_nil, or_false]
  omega

/-- Blanks have no letter case. -/
theorem case_of_isBlank (h : isBlank c = true) :
    upperChar c = [c] ∧ lowerChar c = [c] ∧ c ≠ 'Σ' := by
  have hcodes : ∀ n ∈ blankCodes, upperChar (Char.ofNat n) = [Char.ofNat n] ∧
      lowerChar (Char.ofNat n) = [Char.ofNat n] ∧ Char.ofNat n ≠ 'Σ' := by decide
  have hc := hcodes c.toNat (toNat_mem_blankCodes h)
  rwa [Char.ofNat_toNat] at hc

/-- Lower case leaves blanks where they are. -/
theorem mem_lowerAfter_of_isBlank (h : isBlank c = true) {before cs : List Char} (hc : c ∈ cs) :
    c ∈ lowerAfter before cs := by
  induction cs generalizing before with
  | nil => cases hc
  | cons d rest ih =>
    rw [lowerAfter, List.mem_append]
    rcases List.mem_cons.mp hc with rfl | hc
    · obtain ⟨-, hlower, hsigma⟩ := case_of_isBlank h
      exact .inl (by simp [hsigma, hlower])
    · exact .inr (ih hc)

/-- A text in lower case still has its blanks. -/
theorem mem_lower_of_isBlank (h : isBlank c = true) (hc : c ∈ s.toList) :
    c ∈ (lower s).toList := by
  rw [lower, String.toList_ofList]
  exact mem_lowerAfter_of_isBlank h hc

/-- A text is trimmed already if no blank stands at its ends. -/
theorem trim_eq_self_of_ends (hfirst : ∀ c rest, s.toList = c :: rest → isBlank c = false)
    (hlast : ∀ front c, s.toList = front ++ [c] → isBlank c = false) : trim s = s := by
  have hfront : s.toList.dropWhile isBlank = s.toList := by
    cases hs : s.toList with
    | nil => rfl
    | cons c rest => simp [hfirst c rest hs]
  have hback : s.toList.rdropWhile isBlank = s.toList := by
    rcases List.eq_nil_or_concat' s.toList with hs | ⟨front, c, hs⟩
    · simp [hs]
    · rw [hs, List.rdropWhile_concat, if_neg (by simp [hlast front c hs])]
  rw [trim, trimList, hfront, ← List.rdropWhile, hback, String.ofList_toList]

/-! ## Words in upper case -/

variable {separators front rest : List Char}

/-- Separators become underscores once the text is in upper case. -/
theorem toList_underscored_upper : (underscored separators (upper s)).toList =
    (s.toList.flatMap upperChar).map fun c => if c ∈ separators then '_' else c := by
  rw [underscored, String.toList_ofList, toList_upper]

/-- A blank in front stays there, or becomes an underscore. -/
theorem head?_underscored_upper (h : isBlank c = true) (hs : s.toList = c :: rest) :
    (underscored separators (upper s)).toList.head? =
      some (if c ∈ separators then '_' else c) := by
  rw [toList_underscored_upper, hs, List.flatMap_cons, (case_of_isBlank h).1]
  rfl

/-- A blank at the end stays there, or becomes an underscore. -/
theorem getLast?_underscored_upper (h : isBlank c = true) (hs : s.toList = front ++ [c]) :
    (underscored separators (upper s)).toList.getLast? =
      some (if c ∈ separators then '_' else c) := by
  rw [toList_underscored_upper, hs, List.flatMap_append, List.flatMap_singleton,
    (case_of_isBlank h).1, List.map_append]
  exact List.getLast?_concat

/-- A sign that is no separator is seen. -/
theorem mem_underscored_upper (hupper : c ∈ upperChar c) (hseparators : c ∉ separators)
    (hc : c ∈ s.toList) : c ∈ (underscored separators (upper s)).toList := by
  rw [toList_underscored_upper]
  exact List.mem_map.mpr ⟨c, List.mem_flatMap.mpr ⟨c, hc, hupper⟩, if_neg hseparators⟩

/-- A separator that the text lacks does not matter. -/
theorem underscored_of_lacks {other : Char} (h : Lacks other s) :
    underscored [c, other] s = underscored [c] s := by
  apply String.toList_inj.mp
  rw [underscored, underscored, String.toList_ofList, String.toList_ofList]
  refine List.map_congr_left fun d hd => ?_
  have hne : d ≠ other := fun heq => h (heq ▸ hd)
  simp [hne]

end EntityMapping.Text
