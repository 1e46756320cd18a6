import EntityMapping.Proofs.Text.Lacking

/-!
# Words in any letter case

Folding the letter case of a text gives an ASCII word just if the text is the word with some of
its letters as capitals.  Of the letters outside ASCII only the Kelvin sign folds to an ASCII
letter, to a `k`; a dotted capital I folds to an `i` with a dot of its own behind it, and a
capital sigma to a letter outside ASCII wherever it stands.

Main results:

- `lower_eq_iff`: the texts that fold to a word without a `k`.
-/

namespace EntityMapping.Text

/-- An ASCII character that is no `k`. -/
def IsPlain (c : Char) : Prop := 0 < c.toNat ∧ c.toNat < 0x80 ∧ c ≠ 'k'

instance (c : Char) : Decidable (IsPlain c) :=
  inferInstanceAs (Decidable (_ ∧ _ ∧ _))

/-- Folding to ASCII in one letter case. -/
def InAnyCase (word text : String) : Prop := text.toList.map Char.toLower = word.toList

instance (word text : String) : Decidable (InAnyCase word text) :=
  inferInstanceAs (Decidable (_ = _))

variable {c : Char} {before cs : List Char}

/-! ## Characters -/

set_option maxRecDepth 2000 in
/-- The only run of letters that leads to ASCII is the Kelvin sign. -/
theorem ascii_lowerRuns : ∀ run ∈ lowerRuns, run.first + run.shift < 0x80 →
    run.first = run.last ∧ run.first + run.shift = 'k'.toNat := by
  decide

/-- A character whose folding is plain is an ASCII character. -/
theorem ascii_of_lowerChar (h : ∀ d ∈ lowerChar c, IsPlain d) : c.toNat < 0x80 := by
  unfold lowerChar at h
  split at h
  · assumption
  unfold mapped at h
  split at h
  · next entry hentry =>
    have hsequences : ∀ entry ∈ lowerSequences, ∃ n ∈ entry.2, ¬ IsPlain (Char.ofNat n) := by
      decide
    obtain ⟨n, hn, hplain⟩ := hsequences entry (List.mem_of_find?_eq_some hentry)
    exact absurd (h _ (List.mem_map_of_mem hn)) hplain
  · split at h
    · next run hrun =>
      obtain ⟨hpos, hbelow, hk⟩ := h _ (List.mem_singleton_self _)
      have hcovers := List.find?_some hrun
      simp only [CaseRun.covers, Bool.and_eq_true, decide_eq_true_eq] at hcovers
      have hvalue := toNat_ofNat_of_pos hpos
      obtain ⟨hsingle, hkelvin⟩ :=
        ascii_lowerRuns run (List.mem_of_find?_eq_some hrun) (by omega)
      have hcode : (c.toNat + run.shift).toNat = 'k'.toNat := by omega
      rw [hcode] at hk
      exact absurd rfl hk
    · exact (h c (List.mem_singleton_self c)).2.1

/-- Only an ASCII character has an ASCII letter for its simple lower case. -/
theorem ascii_of_toLower (h : c.toLower.toNat < 0x80) : c.toNat < 0x80 := by
  unfold Char.toLower at h
  split at h
  · next hcapital =>
    have hle : c.toNat ≤ 'Z'.toNat := UInt32.le_iff_toNat_le.mp hcapital.2
    exact Nat.lt_of_le_of_lt hle (by decide)
  · exact h

/-! ## Texts -/

/-- In ASCII the lower case is taken letter by letter. -/
theorem lowerAfter_of_ascii (h : ∀ c ∈ cs, c.toNat < 0x80) :
    lowerAfter before cs = cs.map Char.toLower := by
  induction cs generalizing before with
  | nil => rfl
  | cons c rest ih =>
    obtain ⟨hc, hrest⟩ := List.forall_mem_cons.mp h
    have hsigma : c ≠ 'Σ' := by
      rintro rfl
      exact absurd hc (by decide)
    rw [lowerAfter, if_neg hsigma, lowerChar, if_pos hc, ih hrest]
    rfl

/-- A text whose lower case is plain is ASCII. -/
theorem ascii_of_lowerAfter (h : ∀ d ∈ lowerAfter before cs, IsPlain d) :
    ∀ c ∈ cs, c.toNat < 0x80 := by
  induction cs generalizing before with
  | nil => simp
  | cons c rest ih =>
    rw [lowerAfter, List.forall_mem_append] at h
    refine List.forall_mem_cons.mpr ⟨?_, ih h.2⟩
    by_cases hsigma : c = 'Σ'
    · have hfinal := h.1
      rw [if_pos hsigma, List.forall_mem_singleton] at hfinal
      split at hfinal
      · exact absurd hfinal (by decide)
      · exact absurd hfinal (by decide)
    · rw [if_neg hsigma] at h
      exact ascii_of_lowerChar h.1

/-- The texts that fold to a word without a `k` are the word in any letter case. -/
theorem lower_eq_iff {word text : String} (hword : ∀ w ∈ word.toList, IsPlain w) :
    lower text = word ↔ InAnyCase word text := by
  rw [lower, ← String.toList_inj, String.toList_ofList, InAnyCase]
  constructor
  · intro h
    have hascii := ascii_of_lowerAfter (h ▸ hword)
    rw [← h, lowerAfter_of_ascii hascii]
  · intro h
    rw [← h]
    apply lowerAfter_of_ascii
    intro c hc
    have hplain : IsPlain c.toLower := hword _ (h ▸ List.mem_map_of_mem hc)
    exact ascii_of_toLower hplain.2.1

end EntityMapping.Text
