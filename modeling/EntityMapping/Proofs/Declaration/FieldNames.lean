import EntityMapping.Declaration.Samples
import EntityMapping.Generation.Predicate
import EntityMapping.Proofs.Columns.Reading
import EntityMapping.Proofs.Declaration.Expansion

/-!
# Names of declared fields

A field may be written with the mark `r#` before its name, so that words of the language can be
names.  The mark is no part of the name.  A declaration takes the name as it is written, though, for
the property and, unless the field names its column, for the column; from there it gets into the
paths of parameters.  So all of them have the names of their fields exactly if no field bears the
mark.

Main results:

- `plainName_eq_self_iff`: names without the mark.
- `FieldDeclaration.Plans.names_column_iff`: when a field names its column.
- `EntityPlan.forall₂_plans`: an accepted plan has the persistent fields in order.
- `EntityPlan.names_plain_iff`: how properties, columns and paths are called.
-/

namespace EntityMapping.Declaration

/-! ## Marked names -/

/-- The name is written with the mark before it. -/
def IsRaw (written : String) : Prop := ∃ name, written = "r#" ++ name

/-- The name itself, without the mark. -/
def plainName (written : String) : String :=
  match written.toList with
  | 'r' :: '#' :: name => String.ofList name
  | _ => written

/-- The mark of a raw name is taken off. -/
theorem plainName_append (name : String) : plainName ("r#" ++ name) = name := by
  rw [plainName, String.toList_append]
  exact String.ofList_toList

/-- A name without the mark is plain. -/
theorem plainName_of_not_raw {written : String} (h : ¬ IsRaw written) :
    plainName written = written := by
  unfold plainName
  split
  next name hname =>
    refine absurd ⟨String.ofList name, ?_⟩ h
    apply String.toList_inj.mp
    simpa using hname
  next => rfl

/-- A name is plain exactly if it has no mark. -/
theorem plainName_eq_self_iff {written : String} :
    plainName written = written ↔ ¬ IsRaw written := by
  refine ⟨?_, plainName_of_not_raw⟩
  rintro hsame ⟨name, rfl⟩
  rw [plainName_append] at hsame
  have hlength := congrArg String.length hsame
  rw [String.length_append] at hlength
  have hmark : "r#".length = 2 := by decide
  omega

/-! ## Columns that are named -/

/-- The field has a column attribute, the last of which gives a name. -/
def FieldDeclaration.NamesColumn (f : FieldDeclaration) : Prop :=
  ∃ a ∈ (called "column" f.attributes).getLast?, ∃ x ∈ a.arguments, x.name = "name"

/-- A column has a name once an argument has given it. -/
theorem ColumnPlan.name_isSome_iff {a : Attribute} {c : ColumnPlan} (h : read a = .ok c) :
    c.name?.isSome ↔ ∃ x ∈ a.arguments, x.name = "name" := by
  refine readArguments_induct (P := fun c before => c.name?.isSome ↔ ∃ x ∈ before, x.name = "name")
    (by simp) ?_ h
  intro c c' x isLast before hstep hc
  unfold step at hstep
  split at hstep
  · next hname =>
    obtain ⟨s, _, hs⟩ := bind_eq_ok.mp hstep
    cases hs
    simp [hname]
  split at hstep
  · next hname _ =>
    obtain ⟨type, _, htype⟩ := bind_eq_ok.mp hstep
    cases htype
    simpa [hname] using hc
  split at hstep
  · next hname _ _ =>
    obtain ⟨_, _, hquoted⟩ := bind_eq_ok.mp hstep
    cases hquoted
    simpa [hname] using hc
  · cases hstep

/-- A plan names a column exactly if the declaration does. -/
theorem FieldDeclaration.Plans.names_column_iff {f : FieldDeclaration} {p : FieldPlan}
    (h : f.Plans p) : p.column.name?.isSome ↔ f.NamesColumn := by
  have hcolumn := h.column
  unfold NamesColumn
  cases hlast : (called "column" f.attributes).getLast? with
  | none =>
    rw [hlast] at hcolumn
    have hdefault : (⟨none, none, false⟩ : ColumnPlan) = p.column := by simpa using hcolumn
    simp [← hdefault]
  | some a =>
    rw [hlast] at hcolumn
    simpa using ColumnPlan.name_isSome_iff hcolumn

/-! ## Names of properties -/

/-- The property is called by the name, and so is its column unless the field names one, and the
operand of every condition that lists none. -/
structure FieldDeclaration.Calls (f : FieldDeclaration) (name : String) (p : Property) : Prop where
  property : p.name = name
  column : ¬ f.NamesColumn → p.column.name.text = name
  operand : ∀ c ∈ p.conditions, c.operands = [] → Generation.operands p c = [name]

/-- A field is called by its plain name exactly if it was not written raw. -/
theorem FieldDeclaration.Calls.plain_iff {f : FieldDeclaration} {p : Property}
    (h : f.Calls f.name p) : f.Calls (plainName f.name) p ↔ ¬ IsRaw f.name := by
  rw [← plainName_eq_self_iff]
  constructor
  · intro hplain
    exact hplain.property.symm.trans h.property
  · intro hsame
    rwa [hsame]

/-- Properties that are called as their fields are written have the plain names of their fields
just if no field is marked. -/
theorem forall₂_plain_iff {fs : List FieldDeclaration} {ps : List Property}
    (h : List.Forall₂ (fun f p => f.Calls f.name p) fs ps) :
    List.Forall₂ (fun f p => f.Calls (plainName f.name) p) fs ps ↔ ∀ f ∈ fs, ¬ IsRaw f.name := by
  induction h with
  | nil => simp
  | cons hfirst _ ih => rw [List.forall₂_cons, hfirst.plain_iff, ih, List.forall_mem_cons]

/-- Such properties have the names of the fields as they are written. -/
theorem map_name_eq {fs : List FieldDeclaration} {ps : List Property}
    (h : List.Forall₂ (fun f p => f.Calls f.name p) fs ps) :
    ps.map Property.name = fs.map FieldDeclaration.name := by
  induction h with
  | nil => rfl
  | cons hfirst _ ih => rw [List.map_cons, List.map_cons, hfirst.property, ih]

/-- The property of a plan is called as the field is written. -/
theorem FieldDeclaration.Plans.calls {f : FieldDeclaration} {p : FieldPlan} (h : f.Plans p)
    (n : Naming) : f.Calls f.name (p.property n) where
  property := h.name
  column hunnamed := by
    have hnone : p.column.name? = none := by
      simpa [← h.names_column_iff] using hunnamed
    exact (FieldPlan.columnName_of_unnamed hnone).trans h.name
  operand c _ hdefault := by
    rw [Generation.operands, hdefault, List.isEmpty_nil, if_pos rfl]
    exact congrArg (fun name => [name]) h.name

namespace EntityPlan

variable {t : TypeDeclaration} {p : EntityPlan}

/-- An accepted plan has the persistent fields of its declaration, in order. -/
theorem forall₂_plans (h : ofDeclaration t = .ok p) :
    List.Forall₂ FieldDeclaration.Plans t.persistentFields p.fields := by
  rw [(parts_of_ofDeclaration h).1]
  apply plannedFields_forall₂
  obtain ⟨d, -, hplan⟩ := bind_eq_ok.mp h
  dsimp only at hplan
  split at hplan
  · next hfaults =>
    rw [List.isEmpty_iff, List.append_eq_nil_iff, List.append_eq_nil_iff,
      List.flatMap_eq_nil_iff] at hfaults
    intro f hf
    exact faultsOf_field_iff.mp (hfaults.1.1 _ (List.mem_map_of_mem hf))
  · cases hplan

/-- The properties of an accepted declaration, and their columns unless they are named, are called
as its fields are written. -/
theorem forall₂_calls (h : ofDeclaration t = .ok p) (n : Naming) :
    List.Forall₂ (fun f q => f.Calls f.name q) t.persistentFields (p.chain.build n).properties := by
  rw [build_chain n (hasPlainPlaceholders_of_ofDeclaration h)]
  refine List.forall₂_map_right_iff.mpr ?_
  exact (forall₂_plans h).imp fun _ _ hplans => hplans.calls n

/-- The entity of an accepted declaration is called as its fields are written, in its properties, in
the columns that no field names and in the paths of its values.  These are the names of the fields
themselves exactly if no persistent field is marked. -/
theorem names_plain_iff (h : ofDeclaration t = .ok p) (n : Naming) :
    List.Forall₂ (fun f q => f.Calls f.name q) t.persistentFields (p.chain.build n).properties ∧
      (List.Forall₂ (fun f q => f.Calls (plainName f.name) q) t.persistentFields
          (p.chain.build n).properties ↔ ∀ f ∈ t.persistentFields, ¬ IsRaw f.name) ∧
      ∀ (c : Catalog) (slots : List Slot), c.slots (p.chain.build n) = .ok slots → ∀ s ∈ slots,
        ∃ f ∈ t.persistentFields, s.path = f.name ∨ ∃ member, s.path = f.name ++ "." ++ member := by
  have hcalls := forall₂_calls h n
  refine ⟨hcalls, forall₂_plain_iff hcalls, fun c slots hslots s hs => ?_⟩
  obtain ⟨q, hq, hpath⟩ := Catalog.path_of_mem_slotsOf hslots hs
  have hname : q.name ∈ t.persistentFields.map FieldDeclaration.name :=
    map_name_eq hcalls ▸ List.mem_map_of_mem hq
  obtain ⟨f, hf, hsame⟩ := List.mem_map.mp hname
  exact ⟨f, hf, hsame ▸ hpath⟩

/-! ## Tickets -/

open Samples in
/-- A ticket with two marked fields, one of which names its column. -/
def ticket : TypeDeclaration :=
  record "Ticket" []
    [field "id" (simple "i64") [plain "id"],
      field "r#type" (simple "String") [],
      field "r#match" (simple "i64") [attributed "column" [setting "name" "m"]]]

/-- Tickets are accepted, and called as their fields are written. -/
theorem names_plain_ticket : ∃ p, ofDeclaration ticket = .ok p ∧
    ∀ n, List.Forall₂ (fun f q => f.Calls f.name q) ticket.persistentFields
        (p.chain.build n).properties ∧
      ¬ List.Forall₂ (fun f q => f.Calls (plainName f.name) q) ticket.persistentFields
        (p.chain.build n).properties := by
  obtain ⟨p, hp⟩ : ∃ p, ofDeclaration ticket = .ok p := isOk_iff.mp (by decide +kernel)
  refine ⟨p, hp, fun n => ?_⟩
  obtain ⟨hcalls, hplain, -⟩ := names_plain_iff hp n
  refine ⟨hcalls, fun h => hplain.mp h ⟨"r#type", Samples.simple "String", []⟩ ?_ ⟨"type", rfl⟩⟩
  decide

/-- The mark of a field gets into its property, into the column that it does not name and into the
path of its value. -/
theorem ticket_keeps_mark :
    ((ofDeclaration ticket).toOption.map fun p =>
      let e := p.chain.build ((Samples.shop "shop").naming "Ticket")
      (e.properties.map fun q => (q.name, q.column.name.text),
        (Catalog.slots .empty e).toOption.map fun slots => slots.map (·.path))) =
      some ([("id", "id"), ("r#type", "r#type"), ("r#match", "m")],
        some ["id", "r#type", "r#match"]) ∧
    plainName "r#type" = "type" := by
  decide +kernel

end EntityPlan

end EntityMapping.Declaration
