import EntityMapping.Declaration.FieldPlan
import EntityMapping.Proofs.Fallible
import Mathlib.Logic.Basic

/-!
# Well-formed attributes

Which arguments the attributes of a declaration may have.  Every argument is judged by itself:
by its name, and by whether it is a bare name, a text, a word with a meaning or a list of
texts.  An attribute is read exactly if all of its arguments may stand in it; only a sequence
generator needs one, its name.

Main results:

- `fails_readArguments_iff`: a list of arguments is refused for one of them.
- `reads_column_iff`, `reads_generation_iff`, `reads_condition_iff`, `reads_generator_iff`: the
  attributes that are read.
- `readGenerators_eq`: the sequence generators of a declaration are read one by one.
-/

namespace EntityMapping.Declaration

/-! ## Arguments -/

namespace Argument

/-- The value of the argument is a text. -/
def IsText (a : Argument) : Prop := ∃ s, a.form = .value (.text s)

/-- The value of the argument is a word that means something. -/
def IsWord (a : Argument) (meaning : String → Option α) : Prop :=
  ∃ s, a.form = .value (.text s) ∧ (meaning s).isSome

/-- The argument is a list of texts. -/
def IsTexts (a : Argument) : Prop := ∃ ss : List String, a.form = .list (ss.map .text)

/-- The argument may stand in a column. -/
def DescribesColumn (a : Argument) : Prop :=
  a.name = "name" ∧ a.IsText ∨ a.name = "jdbc_type" ∧ a.IsWord columnType? ∨
    a.name = "quoted" ∧ a.form = .bare

/-- The argument may stand in a generated key. -/
def DescribesGeneration (a : Argument) : Prop :=
  a.name = "strategy" ∧ a.IsWord strategy? ∨ a.name = "generator" ∧ a.IsText

/-- The argument may stand in a condition. -/
def DescribesCondition (a : Argument) : Prop :=
  a.name = "kind" ∧ a.IsWord comparison? ∨ a.name = "ignore_case" ∧ a.IsWord caseRule? ∨
    a.name = "column" ∧ a.IsText ∨ a.name = "properties" ∧ a.IsTexts

/-- The argument may stand in a sequence generator. -/
def DescribesGenerator (a : Argument) : Prop :=
  a.name = "name" ∧ a.IsText ∨ a.name = "sequence" ∧ a.IsText

/-- An argument is refused as a text exactly if it is none. -/
theorem fails_text_iff (a : Argument) : Fails a.text ↔ ¬ a.IsText := by
  unfold text IsText
  split <;> simp_all

/-- An argument is refused as a word exactly if it is none or its word has no meaning. -/
theorem fails_word_iff (a : Argument) (meaning : String → Option α) (unknown : Fault) :
    Fails (a.word meaning unknown) ↔ ¬ a.IsWord meaning := by
  unfold word IsWord text
  split
  · next s hform =>
    rw [hform]
    cases hmeaning : meaning s <;> simp [hmeaning, bind, Except.bind]
  · next hform => simp_all [bind, Except.bind]
  · next hform => simp_all [bind, Except.bind]

/-- An argument is refused as a bare one exactly if it carries something. -/
theorem fails_bare_iff (a : Argument) : Fails a.bare ↔ a.form ≠ .bare := by
  unfold bare
  split <;> simp_all

/-- Constants are refused as texts exactly if one of them is no text. -/
theorem fails_textsOf_iff (ls : List Literal) :
    Fails (textsOf ls) ↔ ¬ ∃ ss : List String, ls = ss.map .text := by
  induction ls with
  | nil => simp [textsOf]
  | cons l rest ih =>
    cases l with
    | text s =>
      rw [textsOf, fails_map, ih, not_iff_not]
      constructor
      · rintro ⟨ss, rfl⟩
        exact ⟨s :: ss, rfl⟩
      · rintro ⟨ss, hss⟩
        cases ss with
        | nil => cases hss
        | cons _ ss => exact ⟨ss, (List.cons.inj hss).2⟩
    | _ =>
      refine iff_of_true (fails_error _) ?_
      rintro ⟨_ | ⟨_, _⟩, hss⟩ <;> cases hss

/-- An argument is refused as a list of texts exactly if it is none. -/
theorem fails_texts_iff (a : Argument) (isLast : Bool) : Fails (a.texts isLast) ↔ ¬ a.IsTexts := by
  unfold texts IsTexts
  split
  · next ls hform => simp only [hform, fails_textsOf_iff, ArgumentForm.list.injEq]
  · next hform => simp_all
  · next hform => simp_all

end Argument

/-! ## Lists of arguments -/

/-- Arguments that are judged one by one are refused as soon as one of them is. -/
theorem fails_readArguments_iff {σ : Type} {step : σ → Argument → Bool → Except Fault σ}
    {Fits : Argument → Prop} (hstep : ∀ s a isLast, Fails (step s a isLast) ↔ ¬ Fits a) (s : σ)
    (as : List Argument) : Fails (readArguments step s as) ↔ ¬ ∀ a ∈ as, Fits a := by
  induction as generalizing s with
  | nil => simp
  | cons a rest ih =>
    rw [readArguments, fails_bind_of_iff fun s => ih s, hstep, List.forall_mem_cons]
    exact not_and_or.symm

/-- What is read of arguments has what each of them adds. -/
theorem readArguments_induct {σ : Type} {step : σ → Argument → Bool → Except Fault σ}
    {P : σ → List Argument → Prop} {s t : σ} {as : List Argument} (start : P s [])
    (next : ∀ s s' a isLast before, step s a isLast = .ok s' → P s before →
      P s' (before ++ [a])) (h : readArguments step s as = .ok t) : P t as := by
  suffices general : ∀ (rest before : List Argument) (s : σ), P s before →
      readArguments step s rest = .ok t → P t (before ++ rest) from general as [] s start h
  intro rest
  induction rest with
  | nil =>
    intro before s hs h
    cases h
    simpa using hs
  | cons a rest ih =>
    intro before s hs h
    obtain ⟨s', hstep, hrest⟩ := bind_eq_ok.mp h
    have := ih (before ++ [a]) s' (next s s' a _ before hstep hs) hrest
    simpa using this

/-! ## Attributes -/

namespace Attribute

/-- The attribute describes a column. -/
def DescribesColumn (a : Attribute) : Prop := ∀ x ∈ a.arguments, x.DescribesColumn

/-- The attribute describes a generated key. -/
def DescribesGeneration (a : Attribute) : Prop := ∀ x ∈ a.arguments, x.DescribesGeneration

/-- The attribute describes a condition. -/
def DescribesCondition (a : Attribute) : Prop := ∀ x ∈ a.arguments, x.DescribesCondition

/-- The attribute describes a sequence generator, which has a name. -/
def DescribesGenerator (a : Attribute) : Prop :=
  (∀ x ∈ a.arguments, x.DescribesGenerator) ∧ ∃ x ∈ a.arguments, x.name = "name"

end Attribute

/-- The column attribute refuses just the arguments that describe no column. -/
theorem fails_columnStep_iff (c : ColumnPlan) (a : Argument) (isLast : Bool) :
    Fails (c.step a isLast) ↔ ¬ a.DescribesColumn := by
  unfold ColumnPlan.step Argument.DescribesColumn
  split
  · next h =>
    rw [fails_bind_pure, Argument.fails_text_iff]
    simp [h]
  split
  · next h =>
    rw [fails_bind_pure, Argument.fails_word_iff]
    simp [h]
  split
  · next h =>
    rw [fails_bind_pure, Argument.fails_bare_iff]
    simp [h]
  · next hname htype hquoted => simp [hname, htype, hquoted]

/-- The attribute of generated keys refuses just the arguments that describe no generation. -/
theorem fails_generationStep_iff (g : KeyGeneration) (a : Argument) (isLast : Bool) :
    Fails (generationStep g a isLast) ↔ ¬ a.DescribesGeneration := by
  unfold generationStep Argument.DescribesGeneration
  split
  · next h =>
    rw [fails_bind_pure, Argument.fails_word_iff]
    simp [h]
  split
  · next h =>
    rw [fails_bind_pure, Argument.fails_text_iff]
    simp [h]
  · next hstrategy hgenerator => simp [hstrategy, hgenerator]

/-- The condition attribute refuses just the arguments that describe no condition. -/
theorem fails_conditionStep_iff (c : Condition) (a : Argument) (isLast : Bool) :
    Fails (conditionStep c a isLast) ↔ ¬ a.DescribesCondition := by
  unfold conditionStep Argument.DescribesCondition
  split
  · next h =>
    rw [fails_bind_pure, Argument.fails_word_iff]
    simp [h]
  split
  · next h =>
    rw [fails_bind_pure, Argument.fails_word_iff]
    simp [h]
  split
  · next h =>
    rw [fails_bind_pure, Argument.fails_text_iff]
    simp [h]
  split
  · next h =>
    rw [fails_bind_pure, Argument.fails_texts_iff]
    simp [h]
  · next hkind hcase hcolumn hproperties => simp [hkind, hcase, hcolumn, hproperties]

/-- The attribute of sequence generators refuses just the arguments that describe none. -/
theorem fails_generatorStep_iff (g : GeneratorDraft) (a : Argument) (isLast : Bool) :
    Fails (generatorStep g a isLast) ↔ ¬ a.DescribesGenerator := by
  unfold generatorStep Argument.DescribesGenerator
  split
  · next h =>
    rw [fails_bind_pure, Argument.fails_text_iff]
    simp [h]
  split
  · next h =>
    rw [fails_bind_pure, Argument.fails_text_iff]
    simp [h]
  · next hname hsequence => simp [hname, hsequence]

/-- Arguments that are judged one by one are read exactly if all of them fit. -/
theorem reads_arguments_iff {σ : Type} {step : σ → Argument → Bool → Except Fault σ}
    {Fits : Argument → Prop} (hstep : ∀ s a isLast, Fails (step s a isLast) ↔ ¬ Fits a) (s : σ)
    (as : List Argument) : (∃ t, readArguments step s as = .ok t) ↔ ∀ a ∈ as, Fits a := by
  rw [← not_fails_iff, fails_readArguments_iff hstep, not_not]

/-- A column attribute is read exactly if it describes a column. -/
theorem reads_column_iff (a : Attribute) :
    (∃ c, ColumnPlan.read a = .ok c) ↔ a.DescribesColumn :=
  reads_arguments_iff fails_columnStep_iff _ _

/-- An attribute of generated keys is read exactly if it describes a generation. -/
theorem reads_generation_iff (a : Attribute) :
    (∃ g, readGeneration a = .ok g) ↔ a.DescribesGeneration :=
  reads_arguments_iff fails_generationStep_iff _ _

/-- A condition attribute is read exactly if it describes a condition. -/
theorem reads_condition_iff (a : Attribute) :
    (∃ c, readCondition a = .ok c) ↔ a.DescribesCondition :=
  reads_arguments_iff fails_conditionStep_iff _ _

/-- A generator has a name once an argument has given it. -/
theorem generatorName_isSome {a : Attribute} {d : GeneratorDraft}
    (h : readArguments generatorStep ⟨none, ""⟩ a.arguments = .ok d) :
    d.name?.isSome ↔ ∃ x ∈ a.arguments, x.name = "name" := by
  refine readArguments_induct (P := fun d before => d.name?.isSome ↔ ∃ x ∈ before, x.name = "name")
    (by simp) ?_ h
  intro g g' x isLast before hstep hg
  unfold generatorStep at hstep
  split at hstep
  · next hname =>
    obtain ⟨s, _, hs⟩ := bind_eq_ok.mp hstep
    cases hs
    simp [hname]
  split at hstep
  · next hname _ =>
    obtain ⟨s, _, hs⟩ := bind_eq_ok.mp hstep
    cases hs
    simpa [hname] using hg
  · cases hstep

/-- An attribute of sequence generators is read exactly if it describes one, with a name. -/
theorem reads_generator_iff (a : Attribute) :
    (∃ g, readGenerator a = .ok g) ↔ a.DescribesGenerator := by
  rw [Attribute.DescribesGenerator, ← reads_arguments_iff fails_generatorStep_iff ⟨none, ""⟩]
  constructor
  · rintro ⟨g, hg⟩
    obtain ⟨d, hd, hname⟩ := bind_eq_ok.mp hg
    refine ⟨⟨d, hd⟩, (generatorName_isSome hd).mp ?_⟩
    cases hnamed : d.name? with
    | none => simp [hnamed] at hname
    | some name => rfl
  · rintro ⟨⟨d, hd⟩, hname⟩
    obtain ⟨name, hname⟩ := Option.isSome_iff_exists.mp ((generatorName_isSome hd).mpr hname)
    exact ⟨⟨name, d.sequence⟩, bind_eq_ok.mpr ⟨d, hd, by rw [hname]; rfl⟩⟩

/-- Sequence generators are read one by one, other attributes left out. -/
theorem readGenerators_eq (as : List Attribute) : readGenerators as =
    (as.filter (·.name == "sequence_generator")).mapM readGenerator := by
  induction as with
  | nil => rfl
  | cons a rest ih =>
    rw [readGenerators, ih]
    by_cases hname : a.name = "sequence_generator"
    · simp [hname]
    · simp [hname]

end EntityMapping.Declaration
