import EntityMapping.Generation.KeySelect
import EntityMapping.SortedMap

/-!
# The sequences behind generated keys

A key may name its generator.  Generators are declared for the entity and, overriding these, for
the property; several may have the same name, and those without a sequence do not count.

Main results:

- `Generation.sequenceFor?_eq_some_iff`, `Generation.sequenceFor?_append`: the last generator of a
  list that serves a name.
- `Generation.sequenceName_layers`: which declaration gives the sequence.
-/

namespace EntityMapping

namespace Generation

/-! ## Generators by name -/

variable {generators : List SequenceGenerator} {name sequence : String}

/-- A generator that serves a name: it has the name, and a sequence. -/
def Serves (name : String) (x : SequenceGenerator) : Prop := x.name = name ∧ x.sequence ≠ ""

instance (name : String) (x : SequenceGenerator) : Decidable (Serves name x) :=
  inferInstanceAs (Decidable (_ ∧ _))

/-- The last generator of a list that serves a name. -/
def LastServing (generators : List SequenceGenerator) (name : String) (x : SequenceGenerator) :
    Prop :=
  ∃ before after, generators = before ++ x :: after ∧ Serves name x ∧ ∀ y ∈ after, ¬ Serves name y

/-- The sequence of the last generator that serves a name. -/
def sequenceFor? (generators : List SequenceGenerator) (name : String) : Option String :=
  (generators.reverse.find? (Serves name ·)).map (·.sequence)

/-- The sequence for a name is that of the last generator that serves it. -/
theorem sequenceFor?_eq_some_iff :
    sequenceFor? generators name = some sequence ↔
      ∃ x, LastServing generators name x ∧ x.sequence = sequence := by
  simp only [sequenceFor?, Option.map_eq_some_iff, List.find?_eq_some_iff_append, decide_eq_true_eq,
    Bool.not_eq_true', decide_eq_false_iff_not]
  refine exists_congr fun x => and_congr_left fun _ => ?_
  constructor
  · rintro ⟨hserves, after, before, hsplit, hafter⟩
    refine ⟨before.reverse, after.reverse, ?_, hserves, fun y hy => hafter y (by simpa using hy)⟩
    rw [← List.reverse_reverse generators, hsplit]
    simp
  · rintro ⟨before, after, rfl, hserves, hafter⟩
    exact ⟨hserves, after.reverse, before.reverse, by simp,
      fun y hy => hafter y (by simpa using hy)⟩

/-- There is no sequence for a name that no generator serves. -/
theorem sequenceFor?_eq_none_iff :
    sequenceFor? generators name = none ↔ ∀ x ∈ generators, ¬ Serves name x := by
  simp [sequenceFor?]

/-- Later generators are asked first. -/
theorem sequenceFor?_append (generators others : List SequenceGenerator) (name : String) :
    sequenceFor? (generators ++ others) name =
      (sequenceFor? others name).or (sequenceFor? generators name) := by
  rw [sequenceFor?, List.reverse_append, List.find?_append, Option.map_or]
  rfl

/-- A sequence that is found has a name. -/
theorem sequenceFor?_ne_empty (h : sequenceFor? generators name = some sequence) :
    sequence ≠ "" := by
  obtain ⟨x, ⟨_, _, _, hserves, _⟩, rfl⟩ := sequenceFor?_eq_some_iff.mp h
  exact hserves.2

/-- Skipping the generators without a sequence first makes no difference. -/
theorem find?_usable (generators : List SequenceGenerator) (name : String) :
    (generators.filter (·.sequence != "")).reverse.find? (·.name == name) =
      generators.reverse.find? (Serves name ·) := by
  rw [← List.filter_reverse, List.find?_filter]
  congr 1
  funext x
  by_cases hname : x.name = name <;> by_cases hsequence : x.sequence = "" <;>
    simp [Serves, hname, hsequence]

/-- The property is asked before the entity, and the default comes last. -/
theorem sequenceName_eq_getD (e : Entity) (p : Property) (g : KeyGeneration) (default : String) :
    sequenceName e p g default =
      (g.generatorName?.bind fun name =>
        (sequenceFor? p.generators name).or (sequenceFor? e.generators name)).getD default := by
  unfold sequenceName
  cases g.generatorName? with
  | none => rfl
  | some name =>
    rw [Option.bind_some, ← sequenceFor?_append, sequenceFor?]
    dsimp only
    rw [find?_usable]
    cases (e.generators ++ p.generators).reverse.find? (Serves name ·) <;> rfl

/-! ## Names of generators -/

/-- A key names the generator that it is given, unless the name is empty. -/
theorem generatorName?_eq_some_iff {g : KeyGeneration} :
    g.generatorName? = some name ↔ g.generator? = some name ∧ name ≠ "" := by
  simp [KeyGeneration.generatorName?, Option.filter_eq_some_iff]

/-- A key names no generator if it is given none or an empty name. -/
theorem generatorName?_eq_none_iff {g : KeyGeneration} :
    g.generatorName? = none ↔ g.generator? = none ∨ g.generator? = some "" := by
  cases hg : g.generator? with
  | none => simp [KeyGeneration.generatorName?, hg]
  | some name => simp [KeyGeneration.generatorName?, hg, Option.filter]

/-- No sequence is made up: an empty name can only be the default. -/
theorem sequenceName_ne_empty (e : Entity) (p : Property) (g : KeyGeneration) {default : String}
    (h : default ≠ "") : sequenceName e p g default ≠ "" := by
  rw [sequenceName_eq_getD]
  cases hfound : g.generatorName?.bind fun name =>
      (sequenceFor? p.generators name).or (sequenceFor? e.generators name) with
  | none => exact h
  | some sequence =>
    obtain ⟨name, _, hsequence⟩ := Option.bind_eq_some_iff.mp hfound
    rcases Option.or_eq_some_iff.mp hsequence with hsequence | ⟨_, hsequence⟩
    · exact sequenceFor?_ne_empty hsequence
    · exact sequenceFor?_ne_empty hsequence

/-- The sequence is that of the last generator of the property with the wanted name and a sequence,
or else of the last such generator of the entity, or else, and if no generator is named, the
default.  So it is not empty unless the default is, and generators of the property without a
sequence hide none of the entity. -/
theorem sequenceName_layers (e : Entity) (p : Property) (g : KeyGeneration) (default : String) :
    (∀ sequence, sequenceName e p g default = sequence ↔
      (∃ name, g.generator? = some name ∧ name ≠ "" ∧
        ((∃ x, LastServing p.generators name x ∧ x.sequence = sequence) ∨
          (∀ x ∈ p.generators, ¬ Serves name x) ∧
            ((∃ x, LastServing e.generators name x ∧ x.sequence = sequence) ∨
              (∀ x ∈ e.generators, ¬ Serves name x) ∧ sequence = default))) ∨
        (g.generator? = none ∨ g.generator? = some "") ∧ sequence = default) ∧
    (sequenceName e p g default = "" → default = "") ∧
    ∀ name x, g.generator? = some name → name ≠ "" →
      (∀ y ∈ p.generators, y.name = name → y.sequence = "") → LastServing e.generators name x →
        sequenceName e p g default = x.sequence := by
  refine ⟨fun sequence => ?_, fun hempty => ?_, fun name x hnamed hname hblank hlast => ?_⟩
  · rw [sequenceName_eq_getD, ← generatorName?_eq_none_iff]
    simp only [← and_assoc, ← generatorName?_eq_some_iff, ← sequenceFor?_eq_some_iff,
      ← sequenceFor?_eq_none_iff]
    cases g.generatorName? with
    | none => simp [eq_comm]
    | some name =>
      simp only [Option.bind_some, Option.some.injEq, exists_eq_left']
      cases sequenceFor? p.generators name with
      | some found => simp
      | none =>
        cases sequenceFor? e.generators name with
        | some found => simp
        | none => simp [eq_comm]
  · by_cases hdefault : default = ""
    · exact hdefault
    · exact absurd hempty (sequenceName_ne_empty e p g hdefault)
  · have hunserved : ∀ y ∈ p.generators, ¬ Serves name y :=
      fun y hy hserves => hserves.2 (hblank y hy hserves.1)
    rw [sequenceName_eq_getD, generatorName?_eq_some_iff.mpr ⟨hnamed, hname⟩, Option.bind_some,
      sequenceFor?_eq_none_iff.mpr hunserved, sequenceFor?_eq_some_iff.mpr ⟨x, hlast, rfl⟩]
    rfl

/-- A generator without a sequence, of the property or of the entity, hides no other. -/
theorem sequenceName_layers_blank :
    let entity := { Entity.plain "app::User" "users" with
      generators := [⟨"user_gen", "old_seq"⟩, ⟨"user_gen", "user_seq"⟩, ⟨"user_gen", ""⟩] }
    let id := { Property.plain .id "id" "i64" ⟨.plain "id", .bigint⟩ with
      generators := [⟨"id_gen", "id_seq"⟩, ⟨"user_gen", ""⟩] }
    sequenceName entity id ⟨.sequence, some "user_gen"⟩ "mapper_seq" = "user_seq" := by
  intro entity id
  refine (sequenceName_layers entity id ⟨.sequence, some "user_gen"⟩ "mapper_seq").2.2 "user_gen"
    ⟨"user_gen", "user_seq"⟩ rfl (by decide) (by decide) ?_
  exact ⟨[⟨"user_gen", "old_seq"⟩], [⟨"user_gen", ""⟩], rfl, by decide, by decide⟩

end Generation

end EntityMapping
