import EntityMapping.Proofs.Columns.Flattening

/-!
# Key columns of a result map

A result map says of every column whether it belongs to a key.  A slot belongs to the key if its
property does, or the owner of its member.  The result map also counts as keys the members that
are ids of an embedded type, even if the property that embeds it is outside the key.

Main results:

- `Generator.resultEntries_perm_entriesIn`: a result map has the entries of all properties.
- `Generator.key_columns_iff_no_idMembers`: the key columns of a result map are those of the key
  slots and of the id members, so the two agree if there are no id members.
-/

namespace EntityMapping

/-! ## Entries of a property -/

namespace Catalog

variable {c : Catalog} {p : Property} {e : Entity}

/-- The entries of the members of an embedded property. -/
def memberEntries (p : Property) (e : Entity) : List ResultEntry :=
  e.properties.map fun member =>
    (ResultEntry.ofProperty (p.role == .embeddedId || member.isKey) member).under p.name

/-- The entries of a property; none if it embeds a type that the catalog does not hold. -/
def entriesIn (c : Catalog) (p : Property) : List ResultEntry :=
  if p.isEmbedded then (c.get? p.typeName).toList.flatMap (memberEntries p)
  else [ResultEntry.ofProperty p.isKey p]

/-- The places of the members that are ids of an embedded type, if the property that embeds it
is outside the key. -/
def idMembersIn (c : Catalog) (p : Property) : List (String × Column) :=
  if p.role = .embedded then
    (c.get? p.typeName).toList.flatMap fun inner =>
      ((inner.properties.filter (·.isKey)).map Property.place).map (underOwner p.name)
  else []

/-- The places of all such members. -/
def idMembers (c : Catalog) (ps : List Property) : List (String × Column) :=
  ps.flatMap c.idMembersIn

/-- The members of an embedded id are all keys, as slots and as entries. -/
theorem key_memberEntries_embeddedId (h : p.role = .embeddedId) (e : Entity) :
    ((memberEntries p e).filter (·.isKey)).map ResultEntry.place =
      ((memberSlots p e).filter (·.isKey)).map Slot.reading := by
  have hentries : (memberEntries p e).filter (·.isKey) = memberEntries p e := by
    refine List.filter_eq_self.mpr fun r hr => ?_
    obtain ⟨member, _, rfl⟩ := List.mem_map.mp hr
    simp [h, ResultEntry.under, ResultEntry.ofProperty]
  have hslots : (memberSlots p e).filter (·.isKey) = memberSlots p e := by
    refine List.filter_eq_self.mpr fun s hs => ?_
    obtain ⟨member, _, rfl⟩ := List.mem_map.mp hs
    simp [h]
  rw [hentries, hslots, memberEntries, memberSlots, List.map_map, List.map_map]
  rfl

/-- Outside the key no member is a key as a slot, and the id members are keys as entries. -/
theorem key_memberEntries_embedded (h : p.role = .embedded) (e : Entity) :
    ((memberEntries p e).filter (·.isKey)).map ResultEntry.place =
      (((e.properties.filter (·.isKey)).map Property.place).map (underOwner p.name)).map
        namedPlace := by
  have hkeys : ∀ member : Property,
      ((ResultEntry.ofProperty (p.role == .embeddedId || member.isKey) member).under
        p.name).isKey = member.isKey := by
    intro member
    simp [h, ResultEntry.under, ResultEntry.ofProperty]
  simp only [memberEntries, List.filter_map, Function.comp_def, hkeys, List.map_map]
  rfl

/-- Members of a plain embedded property count as key columns by no mark of their owner. -/
theorem key_memberSlots_embedded (h : p.role = .embedded) (e : Entity) :
    (memberSlots p e).filter (·.isKey) = [] := by
  refine List.filter_eq_nil_iff.mpr fun s hs => ?_
  obtain ⟨member, _, rfl⟩ := List.mem_map.mp hs
  simp [h]

/-- The key entries of a property are its key slots and its id members. -/
theorem key_entriesIn (c : Catalog) (p : Property) :
    ((c.entriesIn p).filter (·.isKey)).map ResultEntry.place =
      ((c.slotsIn p).filter (·.isKey)).map Slot.reading ++ (c.idMembersIn p).map namedPlace := by
  by_cases hembedded : p.isEmbedded = true
  · rw [entriesIn, if_pos hembedded]
    cases hfound : c.get? p.typeName with
    | none => simp [slotsIn_missing hembedded hfound, idMembersIn, hfound]
    | some e =>
      rw [slotsIn_embedded hembedded hfound, idMembersIn, hfound]
      simp only [Option.toList_some, List.flatMap_cons, List.flatMap_nil, List.append_nil]
      cases hrole : p.role with
      | basic => simp [Property.isEmbedded, hrole, Role.isEmbedded] at hembedded
      | id => simp [Property.isEmbedded, hrole, Role.isEmbedded] at hembedded
      | embeddedId => simpa using key_memberEntries_embeddedId hrole e
      | embedded =>
        simpa [key_memberSlots_embedded hrole] using key_memberEntries_embedded hrole e
  · have hrole : p.role ≠ .embedded := by
      rintro hrole
      simp [Property.isEmbedded, hrole, Role.isEmbedded] at hembedded
    rw [entriesIn, if_neg hembedded, slotsIn_own (Bool.not_eq_true _ |>.mp hembedded), idMembersIn,
      if_neg hrole]
    cases hkey : p.isKey with
    | false => simp [ResultEntry.ofProperty]
    | true => simp [ResultEntry.ofProperty, ResultEntry.place, Slot.reading, Slot.path,
        Column.named]

end Catalog

/-! ## Key columns -/

namespace Generation

/-- Plain properties before embedded ones, their entries are those of all properties. -/
theorem resultEntries_perm_entriesIn (c : Catalog) (ps : List Property) :
    ((Template.concat (results ps)).resultEntries ++
      (associationsIn c ps).flatMap Template.resultEntries).Perm (ps.flatMap c.entriesIn) := by
  rw [resultEntries_results, associationsIn]
  induction ps with
  | nil => rfl
  | cons p rest ih =>
    rw [List.flatMap_cons, Catalog.entriesIn]
    cases hp : p.isEmbedded with
    | false => simpa [hp] using ih
    | true =>
      cases hfound : c.get? p.typeName with
      | none => simpa [hp, hfound] using ih
      | some e =>
        have hfirst := (List.perm_append_comm_assoc _ (Catalog.memberEntries p e) _).trans
          (ih.append_left (Catalog.memberEntries p e))
        simpa [hp, hfound, resultEntries_associationOf, Catalog.memberEntries] using hfirst

end Generation

namespace Generator

variable {g : Generator}

/-- A result map has the entries of all properties. -/
theorem resultEntries_perm_entriesIn {s : Statement} (h : g.resultMapStatement = .ok s) :
    s.body.resultEntries.Perm (g.entity.properties.flatMap g.catalog.entriesIn) := by
  obtain ⟨embedded, hembedded, h⟩ := bind_eq_ok.mp h
  cases h
  obtain rfl := Generation.associations_eq_associationsIn hembedded
  change (Template.concat _ ++ Template.concat _).resultEntries.Perm _
  rw [Template.resultEntries_append, Template.resultEntries_concat (Generation.associationsIn _ _)]
  exact Generation.resultEntries_perm_entriesIn g.catalog g.entity.properties

/-- The columns that a result map binds as keys are those of the key slots and those of the id
members, and it binds all others plainly.  The key columns of the result map and of the slots
agree exactly if there are no id members. -/
theorem key_columns_iff_no_idMembers (hembedded : ¬ g.LacksEmbedded) :
    ∃ slots results, g.slots = .ok slots ∧ g.resultMapStatement = .ok results ∧
      ((results.body.resultEntries.filter (·.isKey)).map ResultEntry.place).Perm
        ((slots.filter (·.isKey)).map Slot.reading ++
          (g.catalog.idMembers g.entity.properties).map namedPlace) ∧
      ((g.catalog.idMembers g.entity.properties).map namedPlace ++
          (results.body.resultEntries.filter fun r => !r.isKey).map ResultEntry.place).Perm
        ((slots.filter fun s => !s.isKey).map Slot.reading) ∧
      (((results.body.resultEntries.filter (·.isKey)).map ResultEntry.place).Perm
          ((slots.filter (·.isKey)).map Slot.reading) ↔
        g.catalog.idMembers g.entity.properties = []) := by
  obtain ⟨slots, hslots⟩ := not_fails_iff.mp (fails_slots_iff.not.mpr hembedded)
  obtain ⟨results, hresults⟩ :=
    not_fails_iff.mp (fails_resultMapStatement_iff.not.mpr hembedded)
  have hkeys : ((results.body.resultEntries.filter (·.isKey)).map ResultEntry.place).Perm
      ((slots.filter (·.isKey)).map Slot.reading ++
        (g.catalog.idMembers g.entity.properties).map namedPlace) := by
    refine (((resultEntries_perm_entriesIn hresults).filter _).map _).trans ?_
    rw [Catalog.slotsOf_eq_flatMap hslots, Catalog.idMembers, List.filter_flatMap,
      List.filter_flatMap, List.map_flatMap, List.map_flatMap, List.map_flatMap]
    simp only [Catalog.key_entriesIn]
    exact (List.flatMap_append_perm _ _ _).symm
  refine ⟨slots, results, hslots, hresults, hkeys, ?_, ?_⟩
  · -- Both sides complete the key columns of the slots to all columns.
    have hentries := (List.filter_append_perm (·.isKey) results.body.resultEntries).map
      ResultEntry.place
    have hall := hentries.trans ((resultEntries_perm_slots hresults hslots).trans
      ((List.filter_append_perm (·.isKey) slots).map Slot.reading).symm)
    rw [List.map_append, List.map_append] at hall
    refine (List.perm_append_left_iff ((slots.filter (·.isKey)).map Slot.reading)).mp ?_
    rw [← List.append_assoc]
    exact (hkeys.symm.append_right _).trans hall
  · constructor
    · intro hagree
      have hlength := hkeys.symm.trans hagree |>.length_eq
      simp only [List.length_append, List.length_map] at hlength
      exact List.eq_nil_of_length_eq_zero (by omega)
    · intro hnone
      rw [hnone, List.map_nil, List.append_nil] at hkeys
      exact hkeys

/-! ## Parcels whose sender has an id -/

/-- Parcels with a sender, who has an id and a name. -/
def parcels : Generator :=
  let person : Entity :=
    { Entity.plain "app::Person" "" with
      properties :=
        [Property.plain .id "id" "i64" ⟨.plain "person_id", .bigint⟩,
          Property.plain .basic "name" "String" ⟨.plain "name", .varchar⟩]
      embeddable := true }
  let parcel : Entity :=
    { Entity.plain "app::Parcel" "parcels" with
      properties :=
        [Property.plain .id "id" "i64" ⟨.plain "id", .bigint⟩,
          Property.plain .embedded "sender" "app::Person" ⟨.plain "sender", .varchar⟩] }
  { catalog := (Catalog.add .empty person).add parcel
    dialect := .postgres
    repository := ⟨"app::Parcels", "app::Parcel", false⟩
    entity := parcel
    defaultSequence := "parcel_seq" }

/-- Every type that a parcel embeds is registered. -/
theorem parcels_complete : ¬ parcels.LacksEmbedded :=
  fails_slots_iff.not.mp (not_fails_iff.mpr (isOk_iff.mp (by decide)))

/-- The result map binds the sender of a parcel by the sender's id, which is no key of the
parcel. -/
theorem key_columns_iff_no_idMembers_parcels : ∃ slots results, parcels.slots = .ok slots ∧
    parcels.resultMapStatement = .ok results ∧
    ("sender.id", "person_id", .bigint) ∈
      (results.body.resultEntries.filter (·.isKey)).map ResultEntry.place ∧
    ¬ ((results.body.resultEntries.filter (·.isKey)).map ResultEntry.place).Perm
      ((slots.filter (·.isKey)).map Slot.reading) := by
  obtain ⟨slots, results, hslots, hresults, hkeys, _, hagree⟩ :=
    key_columns_iff_no_idMembers parcels_complete
  have hmembers : parcels.catalog.idMembers parcels.entity.properties =
      [("sender.id", ⟨.plain "person_id", .bigint⟩)] := by decide
  rw [hmembers] at hkeys hagree
  refine ⟨slots, results, hslots, hresults, hkeys.mem_iff.mpr ?_, ?_⟩
  · exact List.mem_append_right _ (List.mem_singleton.mpr rfl)
  · rw [hagree]
    exact List.cons_ne_nil _ _

/-- All embedded types of a parcel are there, and the columns that its result map binds as keys
are not the columns of its key slots. -/
theorem parcel_sender_bound_as_key : ¬ parcels.LacksEmbedded ∧
    ∃ slots results, parcels.slots = .ok slots ∧ parcels.resultMapStatement = .ok results ∧
      (results.body.resultEntries.filter (·.isKey)).map (·.column) = ["id", "person_id"] ∧
      (slots.filter (·.isKey)).map (·.column.name.text) = ["id"] := by
  obtain ⟨slots, hslots⟩ := isOk_iff.mp (by decide : parcels.slots.isOk = true)
  obtain ⟨results, hresults⟩ :=
    isOk_iff.mp (by decide : parcels.resultMapStatement.isOk = true)
  have hbound : parcels.resultMapStatement.map
      (fun s => (s.body.resultEntries.filter (·.isKey)).map (·.column)) =
        .ok ["id", "person_id"] := by decide
  have hmapped : parcels.slots.map
      (fun slots => (slots.filter (·.isKey)).map (·.column.name.text)) = .ok ["id"] := by
    decide
  rw [hresults] at hbound
  rw [hslots] at hmapped
  exact ⟨parcels_complete, slots, results, hslots, hresults, Except.ok.inj hbound,
    Except.ok.inj hmapped⟩

end Generator

end EntityMapping
