import EntityMapping.Proofs.Declaration.Attributes
import Mathlib.Data.List.Induction
import Mathlib.Tactic.ByContra

/-!
# Fields that are accepted

A field is accepted if each of its attributes is well formed and the attributes go together:
one marker at most, no column and no conditions on an embedded field, and a generated key only
on an id.  The plan of an accepted field has what its attributes say, in their order; of
several columns or generated keys the last one counts.

Main results:

- `FieldDraft.foldl_step`: what the attributes of a field give its draft.
- `FieldPlan.ofDeclaration_isOk_iff`: the fields that are accepted.
- `FieldPlan.plans_of_ofDeclaration`: what the plan of an accepted field has.
-/

namespace EntityMapping.Declaration

/-! ## Attributes by name -/

/-- The attributes of a name, in order. -/
def called (name : String) (as : List Attribute) : List Attribute := as.filter (·.name == name)

/-- The roles that attributes mark, in order. -/
def markers (as : List Attribute) : List Role :=
  as.filterMap fun a => FieldDraft.markedRole? a.name

/-- The attributes that are called something are those with that name. -/
theorem mem_called_iff {name : String} {a : Attribute} {as : List Attribute} :
    a ∈ called name as ↔ a ∈ as ∧ a.name = name := by
  simp [called]

/-- A last attribute is among those called something if it has the name. -/
theorem called_append (name : String) (as : List Attribute) (a : Attribute) :
    called name (as ++ [a]) = called name as ++ if a.name = name then [a] else [] := by
  by_cases h : a.name = name <;> simp [called, h]

/-- A last attribute adds the role that it marks, if it marks one. -/
theorem markers_append (as : List Attribute) (a : Attribute) :
    markers (as ++ [a]) = markers as ++ (FieldDraft.markedRole? a.name).toList := by
  rw [markers, List.filterMap_append]
  cases h : FieldDraft.markedRole? a.name <;> simp [h, markers]

/-- Only three names mark a role, and none of them marks the basic one. -/
theorem markedRole?_eq_some_iff {name : String} {role : Role} :
    FieldDraft.markedRole? name = some role ↔ name = "id" ∧ role = .id ∨
      name = "embedded_id" ∧ role = .embeddedId ∨ name = "embedded" ∧ role = .embedded := by
  unfold FieldDraft.markedRole?
  split
  · next h => simp [h, eq_comm]
  split
  · next h => simp [h, eq_comm]
  split
  · next h => simp [h, eq_comm]
  · simp_all

/-- No attribute marks a field as a basic one. -/
theorem basic_not_mem_markers (as : List Attribute) : Role.basic ∉ markers as := by
  intro h
  obtain ⟨a, _, ha⟩ := List.mem_filterMap.mp h
  simp [markedRole?_eq_some_iff] at ha

/-! ## Reading attributes -/

/-- The role of the last marker. -/
def lastRole (as : List Attribute) : Role := (markers as).getLast?.getD .basic

/-- A field is basic exactly if nothing marks it. -/
theorem lastRole_eq_basic_iff (as : List Attribute) : lastRole as = .basic ↔ markers as = [] := by
  rw [lastRole]
  cases hlast : (markers as).getLast? with
  | none => simpa using List.getLast?_eq_none_iff.mp hlast
  | some role =>
    have hmem := List.mem_of_getLast? hlast
    refine iff_of_false ?_ (List.ne_nil_of_mem hmem)
    rintro rfl
    exact basic_not_mem_markers as hmem

/-- The attribute may follow others: it is well formed, and no second marker. -/
structure Attribute.MayFollow (a : Attribute) (as : List Attribute) : Prop where
  marker : (FieldDraft.markedRole? a.name).isSome → markers as = []
  column : a.name = "column" → a.DescribesColumn
  generation : a.name = "generated" → a.DescribesGeneration
  condition : a.name = "condition" → a.DescribesCondition

namespace FieldDraft

/-- The draft of a field to which attributes without faults lead. -/
def drafted (f : FieldDeclaration) (as : List Attribute) : FieldDraft :=
  { plan :=
      { name := f.name
        type := (typeOf f.type).2
        naturalType := columnTypeOf f.type
        role := lastRole as
        column := ((called "column" as).getLast?.bind fun a =>
          (ColumnPlan.read a).toOption).getD ⟨none, none, false⟩
        generated? := (called "generated" as).getLast?.bind fun a => (readGeneration a).toOption
        conditions := (called "condition" as).filterMap fun a => (readCondition a).toOption
        generators := []
        transient := !(called "transient" as).isEmpty }
    hasColumn := !(called "column" as).isEmpty
    faults := [] }

variable {f : FieldDeclaration} {as : List Attribute} {d : FieldDraft} {a : Attribute}

/-- A fault stays. -/
theorem faults_step_ne_nil (h : d.faults ≠ []) (a : Attribute) : (d.step a).faults ≠ [] := by
  unfold step mark blameIf blame
  split
  · split <;> simp [h]
  repeat' split
  all_goals simp [h]

/-- Reading one more attribute drafts the field with one more. -/
theorem step_drafted (h : a.MayFollow as) : (drafted f as).step a = drafted f (as ++ [a]) := by
  have hrole : lastRole (as ++ [a]) = (markedRole? a.name).getD (lastRole as) := by
    rw [lastRole, markers_append]
    cases markedRole? a.name <;> simp [lastRole]
  unfold step
  split
  · next role hmarked =>
    have hnone := (lastRole_eq_basic_iff as).mpr (h.marker (by simp [hmarked]))
    rcases markedRole?_eq_some_iff.mp hmarked with ⟨hname, rfl⟩ | ⟨hname, rfl⟩ | ⟨hname, rfl⟩ <;>
      simp [mark, blameIf, drafted, called_append, hrole, hnone, hname, markedRole?]
  · next hmarked =>
    rw [hmarked] at hrole
    split
    · next hname => simp [drafted, called_append, hrole, hname]
    split
    · next hname =>
      obtain ⟨c, hc⟩ := (reads_column_iff a).mpr (h.column hname)
      simp [drafted, called_append, hrole, hname, hc, Except.toOption]
    split
    · next hname =>
      obtain ⟨g, hg⟩ := (reads_generation_iff a).mpr (h.generation hname)
      simp [drafted, called_append, hrole, hname, hg, Except.toOption]
    split
    · next hname =>
      obtain ⟨c, hc⟩ := (reads_condition_iff a).mpr (h.condition hname)
      simp [drafted, called_append, hrole, hname, hc, Except.toOption]
    · next htransient hcolumn hgenerated hcondition =>
      simp [drafted, called_append, hrole, htransient, hcolumn, hgenerated, hcondition]

/-- An attribute that may not follow is a fault. -/
theorem faults_step_drafted (h : ¬ a.MayFollow as) : ((drafted f as).step a).faults ≠ [] := by
  intro hnil
  refine h ⟨?_, ?_, ?_, ?_⟩
  · intro hmarked
    obtain ⟨role, hrole⟩ := Option.isSome_iff_exists.mp hmarked
    rw [← lastRole_eq_basic_iff]
    by_contra hbasic
    simp [step, hrole, mark, blameIf, blame, drafted, hbasic] at hnil
  · intro hname
    cases hread : ColumnPlan.read a with
    | ok c => exact (reads_column_iff a).mp ⟨c, hread⟩
    | error fault => simp [step, markedRole?, hname, hread, blame] at hnil
  · intro hname
    cases hread : readGeneration a with
    | ok g => exact (reads_generation_iff a).mp ⟨g, hread⟩
    | error fault => simp [step, markedRole?, hname, hread, blame] at hnil
  · intro hname
    cases hread : readCondition a with
    | ok c => exact (reads_condition_iff a).mp ⟨c, hread⟩
    | error fault => simp [step, markedRole?, hname, hread, blame] at hnil

/-- Attributes that can be read together: each is well formed, and at most one is a marker. -/
structure Readable (as : List Attribute) : Prop where
  markers : (markers as).length ≤ 1
  columns : ∀ a ∈ as, a.name = "column" → a.DescribesColumn
  generations : ∀ a ∈ as, a.name = "generated" → a.DescribesGeneration
  conditions : ∀ a ∈ as, a.name = "condition" → a.DescribesCondition

/-- Attributes are readable one by one, each after those before it. -/
theorem readable_append_iff : Readable (as ++ [a]) ↔ Readable as ∧ a.MayFollow as := by
  have hmarkers : (markers (as ++ [a])).length ≤ 1 ↔
      (markers as).length ≤ 1 ∧ ((markedRole? a.name).isSome → markers as = []) := by
    rw [markers_append, List.length_append]
    cases markedRole? a.name with
    | none => simp
    | some role => simp only [Option.toList_some, List.length_singleton, Option.isSome_some,
        true_implies, ← List.length_eq_zero_iff]; omega
  constructor
  · intro h
    obtain ⟨hbefore, hnext⟩ := hmarkers.mp h.markers
    exact ⟨⟨hbefore, fun b hb => h.columns b (List.mem_append_left _ hb),
        fun b hb => h.generations b (List.mem_append_left _ hb),
        fun b hb => h.conditions b (List.mem_append_left _ hb)⟩,
      ⟨hnext, h.columns a (by simp), h.generations a (by simp), h.conditions a (by simp)⟩⟩
  · rintro ⟨h, hnext⟩
    refine ⟨hmarkers.mpr ⟨h.markers, hnext.marker⟩, ?_, ?_, ?_⟩
    · exact List.forall_mem_append.mpr ⟨h.columns, by simpa using hnext.column⟩
    · exact List.forall_mem_append.mpr ⟨h.generations, by simpa using hnext.generation⟩
    · exact List.forall_mem_append.mpr ⟨h.conditions, by simpa using hnext.condition⟩

/-- The attributes of a field lead to its draft if they can be read together, and otherwise to
a fault. -/
theorem foldl_step (f : FieldDeclaration) (as : List Attribute) :
    Readable as ∧ as.foldl step (start f) = drafted f as ∨
      ¬ Readable as ∧ (as.foldl step (start f)).faults ≠ [] := by
  induction as using List.reverseRecOn with
  | nil => exact .inl ⟨⟨by simp [markers], by simp, by simp, by simp⟩, rfl⟩
  | append_singleton as a ih =>
    rw [List.foldl_append, List.foldl_cons, List.foldl_nil, readable_append_iff]
    rcases ih with ⟨hreadable, hdraft⟩ | ⟨hunreadable, hfaults⟩
    · rw [hdraft]
      by_cases hnext : a.MayFollow as
      · exact .inl ⟨⟨hreadable, hnext⟩, step_drafted hnext⟩
      · exact .inr ⟨fun h => hnext h.2, faults_step_drafted hnext⟩
    · exact .inr ⟨fun h => hunreadable h.1, faults_step_ne_nil hfaults a⟩

end FieldDraft

/-! ## Rules -/

namespace FieldDeclaration

/-- Whether the field has an attribute of a name. -/
def has (f : FieldDeclaration) (name : String) : Bool := !(called name f.attributes).isEmpty

/-- The rules on the attributes of a field. -/
structure Lawful (f : FieldDeclaration) : Prop where
  columns : ∀ a ∈ f.attributes, a.name = "column" → a.DescribesColumn
  generations : ∀ a ∈ f.attributes, a.name = "generated" → a.DescribesGeneration
  conditions : ∀ a ∈ f.attributes, a.name = "condition" → a.DescribesCondition
  generators : ∀ a ∈ f.attributes, a.name = "sequence_generator" → a.DescribesGenerator
  single_marker : (f.attributes.filter fun a =>
    a.name = "id" ∨ a.name = "embedded_id" ∨ a.name = "embedded").length ≤ 1
  embedded_plain : f.has "embedded_id" ∨ f.has "embedded" → ¬ f.has "column" ∧ ¬ f.has "condition"
  generated_id : f.has "generated" → f.has "id"

/-- The plan has what the field says: its name and type, the role of its marker, its last
column and its last generated key, and all its conditions and sequence generators. -/
structure Plans (f : FieldDeclaration) (p : FieldPlan) : Prop where
  name : p.name = f.name
  type : p.type = (typeOf f.type).2
  naturalType : p.naturalType = columnTypeOf f.type
  role : p.role = if f.has "id" then .id else if f.has "embedded_id" then .embeddedId
    else if f.has "embedded" then .embedded else .basic
  column : ((called "column" f.attributes).getLast?.map ColumnPlan.read).getD
    (.ok ⟨none, none, false⟩) = .ok p.column
  generated : (called "generated" f.attributes).getLast?.map readGeneration =
    p.generated?.map .ok
  conditions : (called "condition" f.attributes).map readCondition = p.conditions.map .ok
  generators : (called "sequence_generator" f.attributes).map readGenerator =
    p.generators.map .ok
  transient : p.transient = f.has "transient"

/-- A field has an attribute exactly if one of its attributes has the name. -/
theorem has_iff {f : FieldDeclaration} {name : String} :
    f.has name ↔ ∃ a ∈ f.attributes, a.name = name := by
  simp [has, called]

end FieldDeclaration

/-! ## Markers -/

/-- A role is among the markers exactly if an attribute marks it. -/
theorem mem_markers_iff {as : List Attribute} {role : Role} :
    role ∈ markers as ↔ ∃ a ∈ as, FieldDraft.markedRole? a.name = some role := by
  simp [markers]

/-- There are as many markers as attributes of the three names. -/
theorem length_markers (as : List Attribute) : (markers as).length =
    (as.filter fun a => a.name = "id" ∨ a.name = "embedded_id" ∨ a.name = "embedded").length := by
  induction as with
  | nil => rfl
  | cons a rest ih =>
    rw [markers, List.filterMap_cons, List.filter_cons, ← markers]
    unfold FieldDraft.markedRole?
    split_ifs <;> simp_all

/-- A single marker decides the role. -/
theorem lastRole_eq_iff {as : List Attribute} (h : (markers as).length ≤ 1) {role : Role}
    (hrole : role ≠ .basic) : lastRole as = role ↔ role ∈ markers as := by
  rw [lastRole]
  match markers as, h with
  | [], _ => simpa using hrole.symm
  | [marked], _ => simp [eq_comm]

namespace FieldDeclaration

variable {f : FieldDeclaration}

/-- With one marker at most, a field is an id exactly if it has that attribute. -/
theorem lastRole_eq_id_iff (h : (markers f.attributes).length ≤ 1) :
    lastRole f.attributes = .id ↔ f.has "id" := by
  rw [lastRole_eq_iff h (by decide), mem_markers_iff, has_iff]
  simp [markedRole?_eq_some_iff]

/-- With one marker at most, a field is an embedded id exactly if it has that attribute. -/
theorem lastRole_eq_embeddedId_iff (h : (markers f.attributes).length ≤ 1) :
    lastRole f.attributes = .embeddedId ↔ f.has "embedded_id" := by
  rw [lastRole_eq_iff h (by decide), mem_markers_iff, has_iff]
  simp [markedRole?_eq_some_iff]

/-- With one marker at most, a field is embedded exactly if it has that attribute. -/
theorem lastRole_eq_embedded_iff (h : (markers f.attributes).length ≤ 1) :
    lastRole f.attributes = .embedded ↔ f.has "embedded" := by
  rw [lastRole_eq_iff h (by decide), mem_markers_iff, has_iff]
  simp [markedRole?_eq_some_iff]

/-- With one marker at most, a field stands for columns of another type exactly if it is marked
so. -/
theorem lastRole_isEmbedded_iff (h : (markers f.attributes).length ≤ 1) :
    (lastRole f.attributes).isEmbedded ↔ f.has "embedded_id" ∨ f.has "embedded" := by
  rw [← lastRole_eq_embeddedId_iff h, ← lastRole_eq_embedded_iff h]
  cases lastRole f.attributes <;> simp [Role.isEmbedded]

/-- With one marker at most, the role is the one that it marks. -/
theorem lastRole_eq (h : (markers f.attributes).length ≤ 1) :
    lastRole f.attributes = if f.has "id" then .id else if f.has "embedded_id" then .embeddedId
      else if f.has "embedded" then .embedded else .basic := by
  simp only [← lastRole_eq_id_iff h, ← lastRole_eq_embeddedId_iff h, ← lastRole_eq_embedded_iff h]
  cases lastRole f.attributes <;> rfl

end FieldDeclaration

/-! ## Faults of a draft -/

namespace FieldDraft

variable {d : FieldDraft}

/-- A rule adds no fault exactly if it is not broken. -/
theorem faults_blameIf_iff {broken : Bool} {fault : Fault} :
    (d.blameIf broken fault).faults = [] ↔ d.faults = [] ∧ broken = false := by
  cases broken <;> simp [blameIf, blame]

/-- A rule leaves what was drafted as it is. -/
theorem blameIf_keeps (d : FieldDraft) (broken : Bool) (fault : Fault) :
    (d.blameIf broken fault).plan = d.plan ∧ (d.blameIf broken fault).hasColumn = d.hasColumn := by
  cases broken <;> exact ⟨rfl, rfl⟩

/-- The rules change no plan. -/
theorem plan_checkRules (d : FieldDraft) : d.checkRules.plan = d.plan := by
  simp only [checkRules, blameIf_keeps]

/-- The rules add no fault exactly if an embedded field has neither a column nor conditions and only
ids are generated. -/
theorem faults_checkRules_iff : d.checkRules.faults = [] ↔ d.faults = [] ∧
    (d.plan.isEmbedded → d.hasColumn = false ∧ d.plan.conditions = []) ∧
    (d.plan.generated?.isSome → d.plan.role = .id) := by
  simp only [checkRules, faults_blameIf_iff]
  cases d.plan.isEmbedded <;> cases d.plan.generated? <;> simp [and_assoc]

/-- Sequence generators leave everything else of a draft alone. -/
theorem addGenerators_keeps (d : FieldDraft) (as : List Attribute) :
    (d.addGenerators as).hasColumn = d.hasColumn ∧
      (d.addGenerators as).plan = { d.plan with
        generators := (readGenerators as).toOption.getD d.plan.generators } := by
  unfold addGenerators
  split
  · next gs hgs => simp [hgs, Except.toOption]
  · next fault hfault => simp [hfault, Except.toOption, blame]

/-- Adding the sequence generators adds no fault exactly if they can be read. -/
theorem faults_addGenerators_iff {as : List Attribute} :
    (d.addGenerators as).faults = [] ↔ d.faults = [] ∧ ∃ gs, readGenerators as = .ok gs := by
  unfold addGenerators
  split
  · next gs hgs => simp [hgs]
  · next fault hfault => simp [hfault, blame]

end FieldDraft

/-! ## Accepted fields -/

namespace FieldDraft

variable {f : FieldDeclaration}

/-- What the attributes of a field give its draft, if they can be read together. -/
theorem Readable.conditions_drafted (h : Readable f.attributes) :
    (called "condition" f.attributes).map readCondition =
      (drafted f f.attributes).plan.conditions.map .ok := by
  refine map_eq_map_filterMap_toOption fun a ha => ?_
  obtain ⟨hmem, hname⟩ := mem_called_iff.mp ha
  exact (reads_condition_iff a).mpr (h.conditions a hmem hname)

/-- The last attribute of a generated key is the one that counts. -/
theorem Readable.generated_drafted (h : Readable f.attributes) :
    (called "generated" f.attributes).getLast?.map readGeneration =
      (drafted f f.attributes).plan.generated?.map .ok := by
  simp only [drafted]
  cases hlast : (called "generated" f.attributes).getLast? with
  | none => rfl
  | some a =>
    obtain ⟨hmem, hname⟩ := mem_called_iff.mp (List.mem_of_getLast? hlast)
    obtain ⟨g, hg⟩ := (reads_generation_iff a).mpr (h.generations a hmem hname)
    simp [hg, Except.toOption]

/-- The last attribute of a column is the one that counts, and without any the column is plain. -/
theorem Readable.column_drafted (h : Readable f.attributes) :
    ((called "column" f.attributes).getLast?.map ColumnPlan.read).getD (.ok ⟨none, none, false⟩) =
      .ok (drafted f f.attributes).plan.column := by
  simp only [drafted]
  cases hlast : (called "column" f.attributes).getLast? with
  | none => rfl
  | some a =>
    obtain ⟨hmem, hname⟩ := mem_called_iff.mp (List.mem_of_getLast? hlast)
    obtain ⟨c, hc⟩ := (reads_column_iff a).mpr (h.columns a hmem hname)
    simp [hc, Except.toOption]

/-- The rules on how the attributes of a field go together, as they show in its draft. -/
theorem Readable.rules_drafted (h : Readable f.attributes) :
    (((drafted f f.attributes).plan.isEmbedded → (drafted f f.attributes).hasColumn = false ∧
      (drafted f f.attributes).plan.conditions = []) ∧
      ((drafted f f.attributes).plan.generated?.isSome →
        (drafted f f.attributes).plan.role = .id)) ↔
    (f.has "embedded_id" ∨ f.has "embedded" → ¬ f.has "column" ∧ ¬ f.has "condition") ∧
      (f.has "generated" → f.has "id") := by
  have hconditions : (drafted f f.attributes).plan.conditions = [] ↔ ¬ f.has "condition" := by
    rw [← List.map_eq_nil_iff (f := (.ok : Condition → Except Fault Condition)), ← h.conditions_drafted]
    simp [FieldDeclaration.has]
  have hgenerated : (drafted f f.attributes).plan.generated?.isSome ↔ f.has "generated" := by
    rw [← Option.isSome_map (f := (.ok : KeyGeneration → Except Fault KeyGeneration)), ← h.generated_drafted]
    simp [FieldDeclaration.has]
  have hcolumn : (drafted f f.attributes).hasColumn = false ↔ ¬ f.has "column" := by
    simp [drafted, FieldDeclaration.has]
  rw [hconditions, hgenerated, hcolumn]
  change ((lastRole f.attributes).isEmbedded = true → _) ∧ (_ → lastRole f.attributes = .id) ↔ _
  rw [FieldDeclaration.lastRole_isEmbedded_iff h.markers,
    FieldDeclaration.lastRole_eq_id_iff h.markers]

end FieldDraft

namespace FieldPlan

variable {f : FieldDeclaration} {p : FieldPlan}

/-- The sequence generators can be read exactly if each is described well. -/
theorem exists_readGenerators_iff {as : List Attribute} : (∃ gs, readGenerators as = .ok gs) ↔
    ∀ a ∈ as, a.name = "sequence_generator" → a.DescribesGenerator := by
  rw [readGenerators_eq, exists_mapM_eq_ok_iff]
  simp [reads_generator_iff]

/-- The draft of a field after all checks. -/
def checkedDraft (f : FieldDeclaration) : FieldDraft :=
  ((f.attributes.foldl FieldDraft.step (.start f)).addGenerators f.attributes).checkRules

/-- A field is planned exactly if its draft passes all checks, and the plan is that of the draft. -/
theorem ofDeclaration_eq_ok_iff :
    ofDeclaration f = .ok p ↔ (checkedDraft f).faults = [] ∧ (checkedDraft f).plan = p := by
  change (if (checkedDraft f).faults.isEmpty then Except.ok (checkedDraft f).plan
    else .error (checkedDraft f).faults) = .ok p ↔ _
  cases (checkedDraft f).faults <;> simp

/-- No fault is found exactly if the attributes can be read together, the sequence generators
are well formed, and the attributes go together. -/
theorem faults_checkedDraft_iff : (checkedDraft f).faults = [] ↔
    FieldDraft.Readable f.attributes ∧
      (∀ a ∈ f.attributes, a.name = "sequence_generator" → a.DescribesGenerator) ∧
      (f.has "embedded_id" ∨ f.has "embedded" → ¬ f.has "column" ∧ ¬ f.has "condition") ∧
      (f.has "generated" → f.has "id") := by
  rw [checkedDraft, FieldDraft.faults_checkRules_iff, FieldDraft.faults_addGenerators_iff,
    ← exists_readGenerators_iff]
  rcases FieldDraft.foldl_step f f.attributes with ⟨hreadable, hdraft⟩ | ⟨hunreadable, hfaults⟩
  · obtain ⟨hcolumn, hplan⟩ :=
      FieldDraft.addGenerators_keeps (FieldDraft.drafted f f.attributes) f.attributes
    rw [hdraft, hcolumn, hplan, ← hreadable.rules_drafted]
    simp only [hreadable, true_and, FieldPlan.isEmbedded, and_assoc]
    exact and_iff_right rfl
  · exact iff_of_false (fun h => hfaults h.1.1) fun h => hunreadable h.1

/-- A field is accepted exactly if its attributes obey the rules. -/
theorem ofDeclaration_isOk_iff : (∃ p, ofDeclaration f = .ok p) ↔ f.Lawful := by
  simp only [ofDeclaration_eq_ok_iff, exists_and_left, exists_eq', and_true,
    faults_checkedDraft_iff]
  constructor
  · rintro ⟨hreadable, hgenerators, hembedded, hgenerated⟩
    exact ⟨hreadable.columns, hreadable.generations, hreadable.conditions, hgenerators,
      length_markers f.attributes ▸ hreadable.markers, hembedded, hgenerated⟩
  · intro h
    exact ⟨⟨(length_markers f.attributes).symm ▸ h.single_marker, h.columns, h.generations,
      h.conditions⟩, h.generators, h.embedded_plain, h.generated_id⟩

/-- The plan of an accepted field has what the field says. -/
theorem plans_of_ofDeclaration (h : ofDeclaration f = .ok p) : f.Plans p := by
  obtain ⟨hfaults, rfl⟩ := ofDeclaration_eq_ok_iff.mp h
  obtain ⟨hreadable, hgenerators, _⟩ := faults_checkedDraft_iff.mp hfaults
  obtain ⟨gs, hgs⟩ := exists_readGenerators_iff.mpr hgenerators
  have hdraft := (FieldDraft.foldl_step f f.attributes).resolve_right fun h => h.1 hreadable
  have hplan : (checkedDraft f).plan =
      { (FieldDraft.drafted f f.attributes).plan with generators := gs } := by
    rw [checkedDraft, FieldDraft.plan_checkRules, hdraft.2,
      (FieldDraft.addGenerators_keeps _ _).2, hgs]
    rfl
  rw [hplan]
  refine ⟨rfl, rfl, rfl, FieldDeclaration.lastRole_eq hreadable.markers, hreadable.column_drafted,
    hreadable.generated_drafted, hreadable.conditions_drafted, ?_, rfl⟩
  exact mapM_eq_ok.mp (readGenerators_eq f.attributes ▸ hgs)

end FieldPlan

end EntityMapping.Declaration
