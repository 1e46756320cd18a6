import EntityMapping.Generation.ResultMap
import EntityMapping.Proofs.Fallible

/-!
# What a result map reads back

A result map names a column for each value that it reads back.  Members of an association
stand under its property, so every value has a path, as it has among the slots.

Main results:

- `Catalog.slotsOfProperty_of_found`, `Catalog.slotsOfProperty_of_lacksType`: a property has slots
  unless it embeds a type that the catalog lacks.
- `Catalog.slotsOf_eq_flatMap`: slots are listed property by property.
- `Generator.places_resultMap`: a result map lists the columns of the plain properties before
  those of the embedded ones, each in the order of the slots.
- `Generator.resultEntries_perm_slots`: a result map reads back the columns of the slots, each
  under the same path.
-/

namespace EntityMapping

/-! ## Entries -/

/-- A value that a result map reads back: its path, the column it comes from, and whether it
belongs to the key. -/
structure ResultEntry where
  isKey : Bool
  path : String
  column : String
  type : JdbcType
deriving DecidableEq, Repr

namespace ResultEntry

/-- The entry of a property. -/
def ofProperty (isKey : Bool) (p : Property) : ResultEntry :=
  ⟨isKey, p.name, p.column.name.text, p.column.type⟩

/-- The entry seen from an owner. -/
def under (owner : String) (r : ResultEntry) : ResultEntry :=
  { r with path := owner ++ "." ++ r.path }

/-- The path of the value and the column, as a result map names it. -/
def place (r : ResultEntry) : String × String × JdbcType := (r.path, r.column, r.type)

end ResultEntry

/-- What a result map says of a column. -/
def Column.named (c : Column) : String × JdbcType := (c.name.text, c.type)

namespace Slot

/-- The path of the value and the column, as a result map names it. -/
def reading (s : Slot) : String × String × JdbcType := (s.path, s.column.named)

/-- Whether the slot holds a property of the entity itself. -/
def isOwn (s : Slot) : Bool := s.owner?.isNone

end Slot

namespace Template

/-- The values that a result map reads back, in order. -/
def resultEntries : Template → List ResultEntry
  | append first second => first.resultEntries ++ second.resultEntries
  | result isKey property column type => [⟨isKey, property, column, type⟩]
  | association property body => body.resultEntries.map (ResultEntry.under property)
  | _ => []

@[simp]
theorem resultEntries_append (first second : Template) :
    (first ++ second).resultEntries = first.resultEntries ++ second.resultEntries := rfl

@[simp]
theorem resultEntries_concat (ts : List Template) :
    (concat ts).resultEntries = ts.flatMap resultEntries := by
  induction ts with
  | nil => rfl
  | cons t rest ih => rw [concat, resultEntries_append, ih, List.flatMap_cons]

end Template

/-! ## Slots of an entity -/

namespace Catalog

/-- The slots of the members of an embedded property. -/
def memberSlots (p : Property) (e : Entity) : List Slot :=
  e.properties.map fun member => ⟨member.name, some p.name, member.column, p.role == .embeddedId⟩

/-- The slots of a property; none if it embeds a type that the catalog does not hold. -/
def slotsIn (c : Catalog) (p : Property) : List Slot :=
  if p.isEmbedded then (c.get? p.typeName).toList.flatMap (memberSlots p)
  else [⟨p.name, none, p.column, p.isKey⟩]

/-- The property embeds a type that the catalog does not hold. -/
def LacksType (c : Catalog) (p : Property) : Prop :=
  p.isEmbedded = true ∧ c.get? p.typeName = none

instance (c : Catalog) (p : Property) : Decidable (c.LacksType p) :=
  inferInstanceAs (Decidable (_ ∧ _))

variable {c : Catalog} {p : Property}

/-- A property that is not embedded has its own column. -/
theorem slotsIn_own (h : p.isEmbedded = false) :
    c.slotsIn p = [⟨p.name, none, p.column, p.isKey⟩] := by
  simp [slotsIn, h]

/-- An embedded property has the columns of the members of its type. -/
theorem slotsIn_embedded {e : Entity} (h : p.isEmbedded = true)
    (hfound : c.get? p.typeName = some e) : c.slotsIn p = memberSlots p e := by
  simp [slotsIn, h, hfound]

/-- An embedded property whose type is not registered has no columns. -/
theorem slotsIn_missing (h : p.isEmbedded = true) (hfound : c.get? p.typeName = none) :
    c.slotsIn p = [] := by
  simp [slotsIn, h, hfound]

/-- Flattening gives the columns of a property whose type can be found. -/
theorem slotsOfProperty_of_found (h : ¬ c.LacksType p) :
    c.slotsOfProperty p = .ok (c.slotsIn p) := by
  unfold slotsOfProperty
  split
  · next hembedded =>
    cases hfound : c.get? p.typeName with
    | none => exact absurd ⟨hembedded, hfound⟩ h
    | some inner =>
      rw [required, hfound, slotsIn_embedded hembedded hfound]
      rfl
  · next hown => rw [slotsIn_own (Bool.not_eq_true _ |>.mp hown)]

/-- Flattening fails at a property whose type is missing. -/
theorem slotsOfProperty_of_lacksType (h : c.LacksType p) :
    c.slotsOfProperty p = .error (.unknownEntity p.typeName) := by
  rw [slotsOfProperty, if_pos h.1, required, h.2]
  rfl

/-- Slots are listed property by property. -/
theorem slotsOf_eq_flatMap {ps : List Property} {slots : List Slot}
    (h : c.slotsOf ps = .ok slots) : slots = ps.flatMap c.slotsIn := by
  induction ps generalizing slots with
  | nil =>
    cases h
    rfl
  | cons p rest ih =>
    obtain ⟨first, hfirst, h⟩ := bind_eq_ok.mp h
    obtain ⟨others, hothers, h⟩ := bind_eq_ok.mp h
    cases h
    have hslots : first = c.slotsIn p := by
      by_cases hlacks : c.LacksType p
      · rw [slotsOfProperty_of_lacksType hlacks] at hfirst
        cases hfirst
      · rw [slotsOfProperty_of_found hlacks] at hfirst
        exact (Except.ok.inj hfirst).symm
    rw [List.flatMap_cons, ← hslots, ← ih hothers]

/-- The path of a slot is the name of the property, or begins with it. -/
theorem path_of_mem_slotsIn {s : Slot} (hs : s ∈ c.slotsIn p) :
    s.path = p.name ∨ ∃ member, s.path = p.name ++ "." ++ member := by
  unfold slotsIn at hs
  split at hs
  · simp only [memberSlots, List.mem_flatMap, List.mem_map] at hs
    obtain ⟨e, -, member, -, rfl⟩ := hs
    exact .inr ⟨member.name, rfl⟩
  · rw [List.mem_singleton] at hs
    subst hs
    exact .inl rfl

/-- The path of a column begins with the name of its property. -/
theorem path_of_mem_slotsOf {ps : List Property} {slots : List Slot}
    (h : c.slotsOf ps = .ok slots) {s : Slot} (hs : s ∈ slots) :
    ∃ p ∈ ps, s.path = p.name ∨ ∃ member, s.path = p.name ++ "." ++ member := by
  rw [slotsOf_eq_flatMap h] at hs
  obtain ⟨p, hp, hs⟩ := List.mem_flatMap.mp hs
  exact ⟨p, hp, path_of_mem_slotsIn hs⟩

/-- The slots of embedded properties, and only these, have an owner. -/
theorem isOwn_of_mem_slotsIn {s : Slot} (hs : s ∈ c.slotsIn p) : s.isOwn = !p.isEmbedded := by
  unfold slotsIn at hs
  split at hs
  · next hembedded =>
    simp only [memberSlots, List.mem_flatMap, List.mem_map] at hs
    obtain ⟨e, _, member, _, rfl⟩ := hs
    rw [hembedded]
    rfl
  · next hown =>
    rw [List.mem_singleton.mp hs, Bool.not_eq_true _ |>.mp hown]
    rfl

/-- The columns of its own are all that a plain property has, and none of an embedded one's. -/
theorem filter_isOwn_slotsIn (c : Catalog) (p : Property) :
    (c.slotsIn p).filter (·.isOwn) = if p.isEmbedded then [] else c.slotsIn p := by
  split
  · next hembedded =>
    refine List.filter_eq_nil_iff.mpr fun s hs => ?_
    simp [isOwn_of_mem_slotsIn hs, hembedded]
  · next hown =>
    refine List.filter_eq_self.mpr fun s hs => ?_
    simp [isOwn_of_mem_slotsIn hs, hown]

/-- The columns of members are all that an embedded property has, and none of a plain one's. -/
theorem filter_not_isOwn_slotsIn (c : Catalog) (p : Property) :
    ((c.slotsIn p).filter fun s => !s.isOwn) = if p.isEmbedded then c.slotsIn p else [] := by
  split
  · next hembedded =>
    refine List.filter_eq_self.mpr fun s hs => ?_
    simp [isOwn_of_mem_slotsIn hs, hembedded]
  · next hown =>
    refine List.filter_eq_nil_iff.mpr fun s hs => ?_
    simp [isOwn_of_mem_slotsIn hs, hown]

end Catalog

/-! ## Entries of an entity -/

namespace Generation

variable {c : Catalog} {ps : List Property}

/-- A plain property has one entry in the result map. -/
theorem resultEntries_resultOf (isKey : Bool) (p : Property) :
    (resultOf isKey p).resultEntries = [ResultEntry.ofProperty isKey p] := rfl

/-- An embedded property has an entry for each member, under its own name. -/
theorem resultEntries_associationOf (p : Property) (e : Entity) :
    (associationOf p e).resultEntries = e.properties.map fun member =>
      (ResultEntry.ofProperty (p.role == .embeddedId || member.isKey) member).under p.name := by
  change ((Template.concat _).resultEntries).map _ = _
  rw [Template.resultEntries_concat, List.flatMap_map]
  simp only [resultEntries_resultOf]
  rw [← List.map_eq_flatMap, List.map_map]
  rfl

/-- The plain properties have their entries in order. -/
theorem resultEntries_results (ps : List Property) :
    (Template.concat (results ps)).resultEntries =
      (ps.filter fun p => !p.isEmbedded).map fun p => ResultEntry.ofProperty p.isKey p := by
  rw [Template.resultEntries_concat, results, List.flatMap_map]
  simp only [resultEntries_resultOf]
  exact List.map_eq_flatMap.symm

/-- The associations of the embedded properties whose types the catalog holds. -/
def associationsIn (c : Catalog) (ps : List Property) : List Template :=
  (ps.filter (·.isEmbedded)).flatMap fun p => (c.get? p.typeName).toList.map (associationOf p)

/-- The associations of properties stand in order. -/
theorem associations_eq_associationsIn {embedded : List Template}
    (h : associations c ps = .ok embedded) : embedded = associationsIn c ps := by
  induction ps generalizing embedded with
  | nil =>
    cases h
    rfl
  | cons p rest ih =>
    rw [associations] at h
    by_cases hp : p.isEmbedded = true
    · rw [if_pos hp] at h
      obtain ⟨e, he, h⟩ := bind_eq_ok.mp h
      obtain ⟨others, hothers, h⟩ := bind_eq_ok.mp h
      cases h
      unfold Catalog.required at he
      cases hfound : c.get? p.typeName with
      | none => simp [hfound] at he
      | some e' => simp_all [associationsIn]
    · rw [if_neg hp] at h
      simpa [associationsIn, hp] using ih h

/-- The entries of the properties that are not embedded are at the places of their slots. -/
theorem places_results (c : Catalog) (ps : List Property) :
    (Template.concat (results ps)).resultEntries.map ResultEntry.place =
      ((ps.flatMap c.slotsIn).filter (·.isOwn)).map Slot.reading := by
  rw [resultEntries_results, List.filter_flatMap, List.map_map]
  simp only [Catalog.filter_isOwn_slotsIn]
  induction ps with
  | nil => rfl
  | cons p rest ih =>
    cases hp : p.isEmbedded with
    | true => simpa [hp] using ih
    | false => simpa [hp, Catalog.slotsIn_own hp] using ⟨rfl, ih⟩

/-- The entries of embedded properties are at the places of their slots. -/
theorem places_associations (c : Catalog) (ps : List Property) :
    ((associationsIn c ps).flatMap Template.resultEntries).map ResultEntry.place =
      ((ps.flatMap c.slotsIn).filter fun s => !s.isOwn).map Slot.reading := by
  rw [associationsIn, List.filter_flatMap]
  simp only [Catalog.filter_not_isOwn_slotsIn]
  induction ps with
  | nil => rfl
  | cons p rest ih =>
    cases hp : p.isEmbedded with
    | false => simpa [hp] using ih
    | true =>
      cases hfound : c.get? p.typeName with
      | none => simpa [hp, hfound, Catalog.slotsIn_missing hp hfound] using ih
      | some e =>
        have hmembers : (associationOf p e).resultEntries.map ResultEntry.place =
            (Catalog.memberSlots p e).map Slot.reading := by
          rw [resultEntries_associationOf, Catalog.memberSlots, List.map_map, List.map_map]
          rfl
        simpa [hp, hfound, Catalog.slotsIn_embedded hp hfound, hmembers] using ih

end Generation

namespace Generator

variable {g : Generator}

/-- A result map lists the columns of the plain properties before those of the embedded ones,
each in the order of the slots. -/
theorem places_resultMap {s : Statement} {slots : List Slot} (h : g.resultMapStatement = .ok s)
    (hslots : g.slots = .ok slots) :
    s.body.resultEntries.map ResultEntry.place =
      (slots.filter (·.isOwn) ++ slots.filter fun s => !s.isOwn).map Slot.reading := by
  obtain ⟨embedded, hembedded, h⟩ := bind_eq_ok.mp h
  cases h
  obtain rfl := Catalog.slotsOf_eq_flatMap hslots
  obtain rfl := Generation.associations_eq_associationsIn hembedded
  change ((Template.concat _ ++ Template.concat _).resultEntries).map _ = _
  rw [Template.resultEntries_append, List.map_append, Generation.places_results g.catalog,
    Template.resultEntries_concat, Generation.places_associations, List.map_append]

/-- A result map reads back the columns of the slots, each under the same path. -/
theorem resultEntries_perm_slots {s : Statement} {slots : List Slot}
    (h : g.resultMapStatement = .ok s) (hslots : g.slots = .ok slots) :
    (s.body.resultEntries.map ResultEntry.place).Perm
      (slots.map fun s => (s.path, s.column.named)) := by
  rw [places_resultMap h hslots]
  exact (List.filter_append_perm _ slots).map Slot.reading

end Generator

end EntityMapping
