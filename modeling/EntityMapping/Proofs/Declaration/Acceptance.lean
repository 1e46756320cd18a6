import EntityMapping.Declaration.EntityPlan
import EntityMapping.Declaration.Samples
import EntityMapping.Proofs.Declaration.Fields
import Mathlib.Data.List.Forall2
import Mathlib.Logic.Basic
import Mathlib.Tactic.SplitIfs

/-!
# Entities that are accepted

An entity whose settings can be read is accepted exactly if all of its fields are, transient
ones among them, its own sequence generators are well formed, and the ids of its persistent
fields go together.  Its plan has the plans of the persistent fields in their order.

Main results:

- `SettingsDraft.keyClass?_foldl`: settings without faults name a key class if one is given.
- `plannedFields_forall₂`: the planned fields are the persistent ones in order.
- `EntityPlan.accepted_iff_lawful`: the entities that are accepted, and their fields.
-/

namespace EntityMapping.Declaration

/-! ## Rules -/

namespace TypeDeclaration

/-- The fields that are not transient. -/
def persistentFields (t : TypeDeclaration) : List FieldDeclaration :=
  t.fields.filter fun f => !f.has "transient"

/-- The settings of the entity give a key class. -/
def GivesKeyClass (t : TypeDeclaration) : Prop :=
  ∃ a ∈ t.attributes, a.name = "entity" ∧ ∃ x ∈ a.arguments, x.name = "id_class"

/-- The rules on an entity.  Those on a single field hold for transient ones, too; those that
count ids do not. -/
structure Lawful (t : TypeDeclaration) : Prop where
  generators : ∀ a ∈ t.attributes, a.name = "sequence_generator" → a.DescribesGenerator
  fields : ∀ f ∈ t.fields, f.Lawful
  single_embedded_id : (t.persistentFields.filter (·.has "embedded_id")).length ≤ 1
  embedded_id_alone : ¬ ((∃ f ∈ t.persistentFields, f.has "embedded_id") ∧
    ∃ f ∈ t.persistentFields, f.has "id")
  key_class : t.GivesKeyClass → 2 ≤ (t.persistentFields.filter (·.has "id")).length

end TypeDeclaration

/-! ## Settings -/

namespace SettingsDraft

variable {d : SettingsDraft}

/-- A setting that is put without a fault leaves none behind; whether a key class is known
then depends on the setting alone. -/
theorem put_keeps {α : Type} {read : Except Fault α} {set : SettingsDraft → α → SettingsDraft}
    {known : Bool} (hfaults : ∀ value, (set d value).faults = d.faults)
    (hknown : ∀ value, (set d value).keyClass?.isSome = known) (h : (d.put read set).faults = []) :
    d.faults = [] ∧ (d.put read set).keyClass?.isSome = known := by
  cases read with
  | ok value => exact ⟨hfaults value ▸ h, hknown value⟩
  | error fault => simp [put, blame] at h

/-- A setting other than the key class leaves the key class alone. -/
theorem assign_keeps {x : Argument} {atEnd : Bool} (hmem : x.name ∈ Fault.settingNames)
    (hname : x.name ≠ "id_class") (h : (d.assign x atEnd).faults = []) :
    d.faults = [] ∧ (d.assign x atEnd).keyClass?.isSome = d.keyClass?.isSome := by
  unfold assign at h ⊢
  split_ifs at h ⊢
  pick_goal 6
  · simp_all [Fault.settingNames]
  all_goals exact put_keeps (fun _ => rfl) (fun _ => rfl) h

/-- The setting of the key class gives one. -/
theorem assign_keyClass {x : Argument} {atEnd : Bool} (hname : x.name = "id_class")
    (h : (d.assign x atEnd).faults = []) :
    d.faults = [] ∧ (d.assign x atEnd).keyClass?.isSome = true := by
  simp only [assign, hname, String.reduceEq, if_false] at h ⊢
  exact put_keeps (fun _ => rfl) (fun _ => rfl) h

/-- An argument without a fault gives a key class if it is called so, and keeps an older one. -/
theorem keyClass?_step {x : Argument} {atEnd : Bool} (h : (d.step x atEnd).faults = []) :
    d.faults = [] ∧
      ((d.step x atEnd).keyClass?.isSome ↔ d.keyClass?.isSome ∨ x.name = "id_class") := by
  unfold step at h ⊢
  split at h
  · simp [blame] at h
  next hmem =>
  split at h
  · simp [blame] at h
  next hfresh =>
  rw [if_neg hmem, if_neg hfresh]
  by_cases hname : x.name = "id_class"
  · obtain ⟨hfaults, hkey⟩ := assign_keyClass hname h
    exact ⟨hfaults, iff_of_true hkey (.inr hname)⟩
  · obtain ⟨hfaults, hkey⟩ := assign_keeps (not_not.mp hmem) hname h
    exact ⟨hfaults, by simp [hkey, hname]⟩

/-- Arguments without faults give a key class exactly if one of them is named so. -/
theorem keyClass?_stepAll {xs : List Argument} (h : (d.stepAll xs).faults = []) :
    d.faults = [] ∧ ((d.stepAll xs).keyClass?.isSome ↔
      d.keyClass?.isSome ∨ ∃ x ∈ xs, x.name = "id_class") := by
  induction xs generalizing d with
  | nil => simpa [stepAll] using h
  | cons x rest ih =>
    obtain ⟨hstep, hrest⟩ := ih h
    obtain ⟨hfaults, hkey⟩ := keyClass?_step hstep
    refine ⟨hfaults, ?_⟩
    rw [stepAll, hrest, hkey, List.exists_mem_cons_iff, or_assoc]

/-- An attribute without faults gives a key class exactly if it is that of the entity and names
one. -/
theorem keyClass?_read {a : Attribute} (h : (d.read a).faults = []) :
    d.faults = [] ∧ ((d.read a).keyClass?.isSome ↔
      d.keyClass?.isSome ∨ a.name = "entity" ∧ ∃ x ∈ a.arguments, x.name = "id_class") := by
  unfold read at h ⊢
  split at h
  next hname =>
    rw [if_pos hname]
    cases hform : a.form with
    | bare => simpa [hform, Attribute.arguments] using h
    | value literal => simp [hform, blame] at h
    | list arguments =>
      simp only [hform] at h ⊢
      split at h
      · simp [blame] at h
      next hplain =>
      rw [if_neg hplain]
      simpa [hname, Attribute.arguments, hform] using keyClass?_stepAll h
  next hname => simpa [hname] using h

/-- Settings without faults name a key class exactly if an attribute of the entity gives one. -/
theorem keyClass?_foldl {as : List Attribute} (h : (as.foldl read d).faults = []) :
    d.faults = [] ∧ ((as.foldl read d).keyClass?.isSome ↔ d.keyClass?.isSome ∨
      ∃ a ∈ as, a.name = "entity" ∧ ∃ x ∈ a.arguments, x.name = "id_class") := by
  induction as generalizing d with
  | nil => simpa using h
  | cons a rest ih =>
    obtain ⟨hread, hrest⟩ := ih h
    obtain ⟨hfaults, hkey⟩ := keyClass?_read hread
    refine ⟨hfaults, ?_⟩
    rw [List.foldl_cons, hrest, hkey, List.exists_mem_cons_iff, or_assoc]

end SettingsDraft

/-! ## Planned fields -/

/-- The fields that are not transient, if all fields are accepted. -/
theorem plannedFields_forall₂ {fs : List FieldDeclaration} (h : ∀ f ∈ fs, f.Lawful) :
    List.Forall₂ FieldDeclaration.Plans (fs.filter fun f => !f.has "transient")
      (plannedFields (fs.map FieldPlan.ofDeclaration)) := by
  induction fs with
  | nil => exact .nil
  | cons f rest ih =>
    obtain ⟨hf, hrest⟩ := List.forall_mem_cons.mp h
    obtain ⟨p, hp⟩ := FieldPlan.ofDeclaration_isOk_iff.mpr hf
    have hplans := FieldPlan.plans_of_ofDeclaration hp
    rw [List.map_cons, hp, plannedFields, hplans.transient, List.filter_cons]
    cases f.has "transient" with
    | true => exact ih hrest
    | false => exact .cons hplans (ih hrest)

/-- A lawful field has the role of a marker exactly if it has the marker. -/
theorem FieldDeclaration.Plans.role_iff {f : FieldDeclaration} {p : FieldPlan} (h : f.Plans p)
    (hf : f.Lawful) :
    (p.role = .id ↔ f.has "id") ∧ (p.role = .embeddedId ↔ f.has "embedded_id") := by
  have hmarkers : (markers f.attributes).length ≤ 1 := length_markers _ ▸ hf.single_marker
  rw [h.role, ← FieldDeclaration.lastRole_eq hmarkers]
  exact ⟨FieldDeclaration.lastRole_eq_id_iff hmarkers,
    FieldDeclaration.lastRole_eq_embeddedId_iff hmarkers⟩

/-- Planned fields count the markers of their declarations. -/
theorem countP_role {fs : List FieldDeclaration} {ps : List FieldPlan} (h : ∀ f ∈ fs, f.Lawful)
    (hplans : List.Forall₂ FieldDeclaration.Plans fs ps) :
    ps.countP (·.role == .id) = (fs.filter (·.has "id")).length ∧
      ps.countP (·.role == .embeddedId) = (fs.filter (·.has "embedded_id")).length := by
  simp only [← List.countP_eq_length_filter]
  induction hplans with
  | nil => exact ⟨rfl, rfl⟩
  | cons hp _ ih =>
    obtain ⟨hf, hrest⟩ := List.forall_mem_cons.mp h
    obtain ⟨hid, hembedded⟩ := hp.role_iff hf
    simp only [List.countP_cons, ih hrest, beq_iff_eq, hid, hembedded, and_self]

/-- The rules on ids hold exactly if there is at most one embedded id, it stands alone, and a key
class joins two ids at least. -/
theorem idFaults_eq_nil_iff {ps : List FieldPlan} {hasKeyClass : Bool} :
    idFaults ps hasKeyClass = [] ↔ ps.countP (·.role == .embeddedId) ≤ 1 ∧
      ¬ (0 < ps.countP (·.role == .embeddedId) ∧ 0 < ps.countP (·.role == .id)) ∧
      (hasKeyClass → 2 ≤ ps.countP (·.role == .id)) := by
  simp only [idFaults, List.append_eq_nil_iff, ite_eq_right_iff, List.cons_ne_nil, imp_false,
    Nat.not_lt, not_and, and_assoc]

/-! ## Accepted entities -/

/-- A field has no faults exactly if it is lawful. -/
theorem faultsOf_field_iff {f : FieldDeclaration} :
    faultsOf (FieldPlan.ofDeclaration f) = [] ↔ f.Lawful := by
  rw [← FieldPlan.ofDeclaration_isOk_iff]
  change faultsOf (if (FieldPlan.checkedDraft f).faults.isEmpty then
    Except.ok (FieldPlan.checkedDraft f).plan else .error (FieldPlan.checkedDraft f).faults) = [] ↔
    _
  simp only [FieldPlan.ofDeclaration_eq_ok_iff]
  cases (FieldPlan.checkedDraft f).faults <;> simp [faultsOf]

/-- The sequence generators of an entity have no faults exactly if each is described well. -/
theorem faultsOf_generators_iff {as : List Attribute} :
    faultsOf ((readGenerators as).mapError fun f => [f]) = [] ↔
      ∀ a ∈ as, a.name = "sequence_generator" → a.DescribesGenerator := by
  rw [← FieldPlan.exists_readGenerators_iff]
  cases readGenerators as <;> simp [Except.mapError, faultsOf]

namespace EntityPlan

variable {t : TypeDeclaration}

/-- What ends the check of an entity whose settings can be read. -/
def faultsAfterSettings (t : TypeDeclaration) : List Fault :=
  (t.fields.map FieldPlan.ofDeclaration).flatMap faultsOf ++
    faultsOf ((readGenerators t.attributes).mapError fun f => [f]) ++
    idFaults (plannedFields (t.fields.map FieldPlan.ofDeclaration))
      (t.attributes.foldl SettingsDraft.read .start).keyClass?.isSome

/-- Once the settings are right, a declaration has no faults exactly if it is lawful. -/
theorem faultsAfterSettings_iff
    (hsettings : (t.attributes.foldl SettingsDraft.read .start).faults = []) :
    faultsAfterSettings t = [] ↔ t.Lawful := by
  have hfields : (t.fields.map FieldPlan.ofDeclaration).flatMap faultsOf = [] ↔
      ∀ f ∈ t.fields, f.Lawful := by
    simp [List.flatMap_eq_nil_iff, faultsOf_field_iff]
  have hkey : (t.attributes.foldl SettingsDraft.read .start).keyClass?.isSome ↔ t.GivesKeyClass :=
    (SettingsDraft.keyClass?_foldl hsettings).2.trans (or_iff_right Bool.false_ne_true)
  rw [faultsAfterSettings, List.append_eq_nil_iff, List.append_eq_nil_iff, hfields,
    faultsOf_generators_iff, idFaults_eq_nil_iff, hkey]
  have hcounts (h : ∀ f ∈ t.fields, f.Lawful) :=
    countP_role (fun f hf => h f (List.mem_of_mem_filter hf)) (plannedFields_forall₂ h)
  have hpresent (name : String) : 0 < (t.persistentFields.filter (·.has name)).length ↔
      ∃ f ∈ t.persistentFields, f.has name := by
    simp [List.length_pos_iff_exists_mem]
  constructor
  · rintro ⟨⟨hlawful, hgenerators⟩, hids⟩
    rw [(hcounts hlawful).1, (hcounts hlawful).2] at hids
    obtain ⟨hsingle, halone, hkeyClass⟩ := hids
    exact ⟨hgenerators, hlawful, hsingle, by rwa [← hpresent, ← hpresent], hkeyClass⟩
  · intro h
    rw [(hcounts h.fields).1, (hcounts h.fields).2]
    refine ⟨⟨h.fields, h.generators⟩, h.single_embedded_id, ?_, h.key_class⟩
    exact (hpresent _).and (hpresent _) |>.not.mpr h.embedded_id_alone

/-- What the check of an entity gives once its settings are read. -/
theorem ofDeclaration_cases (hnamed : t.shape = .named)
    (hsettings : (t.attributes.foldl SettingsDraft.read .start).faults = []) :
    (faultsAfterSettings t = [] ∧ ∃ p, ofDeclaration t = .ok p ∧
        p.fields = plannedFields (t.fields.map FieldPlan.ofDeclaration)) ∨
      (faultsAfterSettings t ≠ [] ∧ ofDeclaration t = .error (faultsAfterSettings t)) := by
  have hread : readSettings t = .ok (t.attributes.foldl SettingsDraft.read .start) := by
    simp [readSettings, hsettings, shapeFault?, hnamed]
  by_cases hfaults : faultsAfterSettings t = []
  · refine .inl ⟨hfaults, ?_⟩
    rw [ofDeclaration, hread]
    refine ⟨_, if_pos (List.isEmpty_iff.mpr hfaults), rfl⟩
  · refine .inr ⟨hfaults, ?_⟩
    rw [ofDeclaration, hread]
    exact if_neg (mt List.isEmpty_iff.mp hfaults)

/-- Among types with named fields whose settings can be read, exactly the lawful ones are
accepted, and the plan of one has its persistent fields in their order. -/
theorem accepted_iff_lawful (hnamed : t.shape = .named)
    (hsettings : (t.attributes.foldl SettingsDraft.read .start).faults = []) :
    ((∃ p, ofDeclaration t = .ok p) ↔ t.Lawful) ∧
      ∀ p, ofDeclaration t = .ok p →
        List.Forall₂ FieldDeclaration.Plans t.persistentFields p.fields := by
  rcases ofDeclaration_cases hnamed hsettings with
    ⟨hfaults, p, hp, hfields⟩ | ⟨hfaults, herror⟩
  · have hlawful : t.Lawful := (faultsAfterSettings_iff hsettings).mp hfaults
    refine ⟨iff_of_true ⟨p, hp⟩ hlawful, fun p' hp' => ?_⟩
    rw [← Except.ok.inj (hp.symm.trans hp'), hfields]
    exact plannedFields_forall₂ hlawful.fields
  · have hunlawful : ¬ t.Lawful := mt (faultsAfterSettings_iff hsettings).mpr hfaults
    simp [herror, hunlawful]

/-- A pair is accepted and lawful: its key class comes with two ids. -/
theorem accepted_iff_lawful_pair : Samples.pair.shape = .named ∧
    (Samples.pair.attributes.foldl SettingsDraft.read .start).faults = [] ∧
    Samples.pair.GivesKeyClass ∧ (∃ p, ofDeclaration Samples.pair = .ok p) ∧
    Samples.pair.Lawful ∧ ∀ p, ofDeclaration Samples.pair = .ok p →
      List.Forall₂ FieldDeclaration.Plans Samples.pair.persistentFields p.fields := by
  have hsettings : (Samples.pair.attributes.foldl SettingsDraft.read .start).faults = [] := by
    decide +kernel
  have haccepted : ∃ p, ofDeclaration Samples.pair = .ok p :=
    isOk_iff.mp (by decide +kernel)
  obtain ⟨hiff, hfields⟩ := accepted_iff_lawful rfl hsettings
  exact ⟨rfl, hsettings, ⟨_, List.mem_singleton_self _, rfl, by decide⟩, haccepted,
    hiff.mp haccepted, hfields⟩

end EntityPlan

end EntityMapping.Declaration
