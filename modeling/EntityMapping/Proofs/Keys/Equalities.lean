import EntityMapping.Proofs.Run.Failure
import EntityMapping.Proofs.Search.Keys

/-!
# Equalities on keys

The condition that a row has a key compares every column of the key with its part of the key.
A statement finds the key as its whole parameter, as an id, or inside an entity, so the part of
a column is at a different path each time.

Main results:

- `Generator.gives_keyMatch`: the condition compares the columns of the key with the values at
  the paths of their parts.
- `Generator.WellKeyed.part_cases`: the parts of a key are ids or members of the embedded id.
- `Generator.WellKeyed.partOf_keyOf`, `Generator.WellKeyed.value_member`: a part of the key of
  an entity is the same value in the entity and in the key.
-/

namespace EntityMapping

/-- The value of a slot in an entity. -/
def Slot.valueIn (s : Slot) (entity : Json) : Json := entity.follow (pathNames s.path)

/-! ## Key properties -/

/-- A simple key is that of one property. -/
theorem Key.isSimple_iff {key : Key} : key.isSimple = true ↔ ∃ p, key = .simple p := by
  cases key <;> simp [Key.isSimple]

namespace Entity

variable {e : Entity}

/-- A key of several properties is not embedded, and there are such properties. -/
theorem ids_of_composite {properties : List Property} {keyClass : String}
    (h : e.key = .composite properties keyClass) :
    e.properties.find? (·.role == .embeddedId) = Option.none ∧ e.ids ≠ [] := by
  unfold key at h
  cases hfound : e.properties.find? (·.role == .embeddedId) with
  | some p =>
    rw [hfound] at h
    cases h
  | none =>
    refine ⟨rfl, fun hnil => ?_⟩
    rw [hfound, hnil] at h
    cases h

/-- An embedded key is marked as such. -/
theorem role_of_embedded {p : Property} (h : e.key = .embedded p) : p.role = .embeddedId := by
  unfold key at h
  cases hfound : e.properties.find? (·.role == .embeddedId) with
  | some q =>
    rw [hfound] at h
    cases h
    simpa using List.find?_some hfound
  | none =>
    simp only [hfound] at h
    split at h <;> cases h

/-- The ids are the properties with that role. -/
theorem mem_ids_iff {p : Property} : p ∈ e.ids ↔ p ∈ e.properties ∧ p.role = .id := by
  simp [ids]

/-- An id belongs to the key. -/
theorem isKey_of_mem_ids {p : Property} (h : p ∈ e.ids) : p.isKey = true := by
  rw [Property.isKey, (mem_ids_iff.mp h).2]
  rfl

/-- An id has a column of its own. -/
theorem isEmbedded_of_mem_ids {p : Property} (h : p ∈ e.ids) : p.isEmbedded = false := by
  rw [Property.isEmbedded, (mem_ids_iff.mp h).2]
  rfl

/-- Without an embedded id the key properties are the ids. -/
theorem filter_isKey_eq_ids (h : e.properties.find? (·.role == .embeddedId) = Option.none) :
    e.properties.filter (·.isKey) = e.ids := by
  refine List.filter_congr fun p hp => ?_
  have hrole := List.find?_eq_none.mp h p hp
  unfold Property.isKey
  cases hp : p.role with
  | embeddedId => exact absurd (by rw [hp]; rfl) hrole
  | _ => rfl

end Entity

/-- Of the embedded properties the embedded ids belong to the key. -/
theorem Role.isKey_of_isEmbedded {role : Role} (h : role.isEmbedded = true) :
    role.isKey = (role == .embeddedId) := by
  cases role with
  | basic => cases h
  | id => cases h
  | embeddedId => rfl
  | embedded => rfl

namespace Catalog

variable {c : Catalog} {p : Property} {ps : List Property} {slots : List Slot}

/-- A required type is given exactly if it is registered. -/
theorem required_eq_ok_iff {typeName : String} {e : Entity} :
    c.required typeName = .ok e ↔ c.get? typeName = some e := by
  unfold required
  cases c.get? typeName <;> simp

/-- The slots of a property belong to the key if the property does. -/
theorem isKey_of_mem_slots (h : c.slotsOfProperty p = .ok slots) {s : Slot} (hs : s ∈ slots) :
    s.isKey = p.isKey := by
  unfold slotsOfProperty at h
  split at h
  · next hembedded =>
    obtain ⟨inner, _, rfl⟩ := map_eq_ok.mp h
    obtain ⟨member, _, rfl⟩ := List.mem_map.mp hs
    exact (Role.isKey_of_isEmbedded hembedded).symm
  · cases h
    rw [List.mem_singleton.mp hs]

/-- The slots of the key are the slots of the key properties. -/
theorem slotsOf_filter_isKey (h : c.slotsOf ps = .ok slots) :
    c.slotsOf (ps.filter (·.isKey)) = .ok (slots.filter (·.isKey)) := by
  induction ps generalizing slots with
  | nil =>
    cases h
    rfl
  | cons p rest ih =>
    obtain ⟨first, hfirst, h⟩ := bind_eq_ok.mp h
    obtain ⟨others, hothers, h⟩ := bind_eq_ok.mp h
    cases h
    have hrest := ih hothers
    have hsame : ∀ s ∈ first, s.isKey = p.isKey := fun s hs => isKey_of_mem_slots hfirst hs
    cases hkey : p.isKey with
    | true =>
      have hall : first.filter (·.isKey) = first :=
        List.filter_eq_self.mpr fun s hs => (hsame s hs).trans hkey
      rw [List.filter_cons_of_pos hkey, slotsOf, hfirst, hrest, List.filter_append, hall]
      rfl
    | false =>
      have hnone : first.filter (·.isKey) = [] :=
        List.filter_eq_nil_iff.mpr fun s hs => by simp [hsame s hs, hkey]
      rw [List.filter_cons_of_neg (by simp [hkey]), hrest, List.filter_append, hnone,
        List.nil_append]

end Catalog

namespace Generator

variable {g : Generator} {t : Template} {key : Json}

/-! ## Conditions -/

/-- The comparisons of the columns of the key with values. -/
def matchSql (g : Generator) (value : Slot → Json) : Sql :=
  Sql.join " and " (g.keyParts.map fun s =>
    Sql.text (g.column s ++ " = ") ++ [.bound (value s) (some s.column.type)])

/-- The part of a key that is compared with the column of a slot.  A simple key has no parts. -/
def partOf (g : Generator) (key : Json) (s : Slot) : Json :=
  if g.entity.key.isSimple then key else key.follow (pathNames s.member)

/-- The parts of the key are the columns that belong to it. -/
theorem keyParts_of_slots {slots : List Slot} (h : g.slots = .ok slots) :
    g.keyParts = slots.filter (·.isKey) := by
  rw [keyParts, keySlots, h]
  rfl

/-- The equalities of a key depend on the values of its parts only. -/
theorem matchSql_congr {value value' : Slot → Json}
    (h : ∀ s ∈ g.keyParts, value s = value' s) : g.matchSql value = g.matchSql value' := by
  rw [matchSql, matchSql]
  refine congrArg _ (List.map_congr_left fun s hs => ?_)
  rw [h s hs]

/-- The condition compares the columns of the key with the values at the paths of their parts. -/
theorem gives_keyMatch {source : KeySource} {s : Scope} {value : Slot → Json}
    (h : g.keyMatch source = .ok t)
    (hvalue : ∀ part ∈ g.keyParts, s.value (source.path g.entity.key.isSimple part) = value part) :
    t.Gives s (g.matchSql value) := by
  unfold keyMatch at h
  split at h
  · cases h
  · obtain ⟨parts, hparts, rfl⟩ := map_eq_ok.mp h
    have hkeyParts : g.keyParts = parts := by
      rw [keyParts, hparts]
    rw [matchSql, hkeyParts]
    rw [hkeyParts] at hvalue
    refine Template.Gives.join fun part hpart => (Template.gives_text _).append ?_
    rw [← hvalue part hpart]
    exact Template.gives_value _ _

variable {q : Request}

/-- With the key as an id, the columns are compared with its parts. -/
theorem yields_keyMatch_id (h : g.keyMatch .id = .ok t) :
    t.Yields q (g.matchSql (g.partOf (q.valueOf .id))) := by
  refine Template.yields_of_gives fun s hs => gives_keyMatch h fun part _ => ?_
  rw [partOf]
  cases hsimple : g.entity.key.isSimple with
  | true => exact hs.value .id
  | false => exact hs.value_member .id part.member

/-- With the key in an entity, the columns are compared with their values in the entity. -/
theorem yields_keyMatch_entity (h : g.keyMatch .entity = .ok t) :
    t.Yields q (g.matchSql fun s => s.valueIn (q.valueOf .entity)) :=
  Template.yields_of_gives fun _ hs => gives_keyMatch h fun part _ =>
    hs.value_member .entity part.path

/-! ## Keys with parts -/

/-- What is known of the key of a derived entity: it is there, an embedded id stands alone and
has members, embedded types are known, and no name of the key has a dot. -/
structure WellKeyed (g : Generator) : Prop where
  keyed : g.entity.key ≠ .none
  embedded : ¬ g.LacksEmbedded
  alone : ∀ p, g.entity.key = .embedded p → g.entity.properties.filter (·.isKey) = [p]
  members : ∀ p e, g.entity.key = .embedded p → g.catalog.get? p.typeName = some e →
    e.properties ≠ [] ∧ ∀ member ∈ e.properties, '.' ∉ member.name.toList
  plain : ∀ p ∈ g.entity.properties, p.isKey = true → '.' ∉ p.name.toList

/-- The key of an entity: the value of its only key property, or the values of all of them. -/
def keyOf (g : Generator) (entity : Json) : Json :=
  match g.entity.key with
  | .none => .null
  | .simple p => entity.field p.name
  | .embedded p => entity.field p.name
  | .composite _ _ => .object (g.entity.ids.map fun p => (p.name, entity.field p.name))

/-- The value can be a key: a simple one is no object, and another one has only members. -/
def FitsKey (g : Generator) (key : Json) : Prop :=
  if g.entity.key.isSimple then ∀ members, key ≠ .object members else key.IsRecord

/-- The slot of a property that is not embedded and belongs to the key. -/
def ownPart (p : Property) : Slot := ⟨p.name, none, p.column, true⟩

/-- The slot of a member of an embedded id. -/
def memberPart (owner member : Property) : Slot :=
  ⟨member.name, some owner.name, member.column, true⟩

/-- The object of the ids of an entity has the value of each of them. -/
theorem field_ofIds {ids : List Property} {p : Property} (hp : p ∈ ids) (entity : Json) :
    (Json.object (ids.map fun p => (p.name, entity.field p.name))).field p.name =
      entity.field p.name := by
  obtain ⟨q, hfound⟩ : ∃ q, ids.find? (fun q => q.name == p.name) = some q :=
    Option.isSome_iff_exists.mp (List.find?_isSome.mpr ⟨p, hp, by simp⟩)
  have hname : q.name = p.name := by simpa using List.find?_some hfound
  have hmember : (ids.map fun p => (p.name, entity.field p.name)).find? (·.1 == p.name) =
      some (q.name, entity.field q.name) := by
    rw [List.find?_map]
    exact congrArg (Option.map _) hfound
  rw [Json.field, Json.member?, hmember, hname]
  rfl

/-- The key properties alone give the parts of the key. -/
theorem slotsOf_key (h : ¬ g.LacksEmbedded) :
    g.catalog.slotsOf (g.entity.properties.filter (·.isKey)) = .ok g.keyParts := by
  obtain ⟨slots, hslots⟩ := not_fails_iff.mp (fails_slots_iff.not.mpr h)
  rw [keyParts_of_slots hslots]
  exact Catalog.slotsOf_filter_isKey hslots

/-- Without an embedded id the slots of the key are those of the ids. -/
theorem filter_isKey_of_ids {c : Catalog} {e : Entity} {slots : List Slot}
    (hslots : c.slots e = .ok slots)
    (hnone : e.properties.find? (·.role == .embeddedId) = none) :
    slots.filter (·.isKey) = e.ids.map ownPart := by
  have hkeys := Catalog.slotsOf_filter_isKey hslots
  rw [Entity.filter_isKey_eq_ids hnone,
    Catalog.slotsOf_plain _ fun p hp => Entity.isEmbedded_of_mem_ids hp] at hkeys
  rw [← Except.ok.inj hkeys]
  refine List.map_congr_left fun p hp => ?_
  rw [ownPart, Entity.isKey_of_mem_ids hp]

/-- Without an embedded id every id is a part of the key. -/
theorem keyParts_of_ids (h : ¬ g.LacksEmbedded)
    (hnone : g.entity.properties.find? (·.role == .embeddedId) = none) :
    g.keyParts = g.entity.ids.map ownPart := by
  obtain ⟨slots, hslots⟩ := not_fails_iff.mp (fails_slots_iff.not.mpr h)
  rw [keyParts_of_slots hslots]
  exact filter_isKey_of_ids hslots hnone

/-- Every member of an embedded id that stands alone is a part of the key. -/
theorem keyParts_of_embedded {p : Property} (h : ¬ g.LacksEmbedded)
    (hkey : g.entity.key = .embedded p)
    (halone : g.entity.properties.filter (·.isKey) = [p]) :
    ∃ e, g.catalog.get? p.typeName = some e ∧
      g.keyParts = e.properties.map (memberPart p) := by
  have hrole : p.role = .embeddedId := Entity.role_of_embedded hkey
  have hembedded : p.isEmbedded = true := by simp [Property.isEmbedded, hrole, Role.isEmbedded]
  have hslots := slotsOf_key h
  rw [halone, Catalog.slotsOf, Catalog.slotsOfProperty, if_pos hembedded] at hslots
  obtain ⟨first, hfirst, hslots⟩ := bind_eq_ok.mp hslots
  obtain ⟨e, he, rfl⟩ := map_eq_ok.mp hfirst
  refine ⟨e, Catalog.required_eq_ok_iff.mp he, ?_⟩
  rw [← Except.ok.inj hslots, List.append_nil]
  simp [memberPart, hrole]

namespace WellKeyed

/-- A simple key has its property for its only part. -/
theorem keyParts_of_simple (h : g.WellKeyed) {p : Property} (hkey : g.entity.key = .simple p) :
    g.keyParts = [ownPart p] := by
  obtain ⟨hnone, hsingle⟩ := (Entity.key_simple_iff _ _).mp hkey
  rw [keyParts_of_ids h.embedded hnone, hsingle]
  rfl

/-- A key has parts. -/
theorem keyParts_ne_nil (h : g.WellKeyed) : g.keyParts ≠ [] := by
  cases hkey : g.entity.key with
  | none => exact absurd hkey h.keyed
  | simple p => simp [h.keyParts_of_simple hkey]
  | embedded p =>
    obtain ⟨e, hfound, hparts⟩ := keyParts_of_embedded h.embedded hkey (h.alone p hkey)
    simpa [hparts] using (h.members p e hkey hfound).1
  | composite properties keyClass =>
    obtain ⟨hnone, hne⟩ := Entity.ids_of_composite hkey
    simpa [keyParts_of_ids h.embedded hnone] using hne

/-- A part of a key is an id, the only one or one of several, or a member of the embedded id. -/
theorem part_cases (h : g.WellKeyed) {part : Slot} (hpart : part ∈ g.keyParts) :
    (∃ p ∈ g.entity.ids, part = ownPart p ∧
      (g.entity.key = .simple p ∨ ∃ ps keyClass, g.entity.key = .composite ps keyClass)) ∨
    ∃ p e, g.entity.key = .embedded p ∧ g.catalog.get? p.typeName = some e ∧
      ∃ member ∈ e.properties, part = memberPart p member := by
  cases hkey : g.entity.key with
  | none => exact absurd hkey h.keyed
  | simple p =>
    rw [h.keyParts_of_simple hkey] at hpart
    have hid : p ∈ g.entity.ids := by
      rw [((Entity.key_simple_iff _ _).mp hkey).2]
      exact List.mem_singleton_self p
    exact .inl ⟨p, hid, List.mem_singleton.mp hpart, .inl rfl⟩
  | embedded p =>
    obtain ⟨e, hfound, hparts⟩ := keyParts_of_embedded h.embedded hkey (h.alone p hkey)
    rw [hparts] at hpart
    obtain ⟨member, hmember, rfl⟩ := List.mem_map.mp hpart
    exact .inr ⟨p, e, rfl, hfound, member, hmember, rfl⟩
  | composite properties keyClass =>
    rw [keyParts_of_ids h.embedded (Entity.ids_of_composite hkey).1] at hpart
    obtain ⟨p, hp, rfl⟩ := List.mem_map.mp hpart
    exact .inl ⟨p, hp, rfl, .inr ⟨properties, keyClass, rfl⟩⟩

/-- No name of a part of the key has a dot. -/
theorem plain_member (h : g.WellKeyed) {part : Slot} (hpart : part ∈ g.keyParts) :
    '.' ∉ part.member.toList := by
  rcases h.part_cases hpart with ⟨p, hp, rfl, _⟩ | ⟨p, e, hkey, hfound, member, hmember, rfl⟩
  · exact h.plain p (Entity.mem_ids_iff.mp hp).1 (Entity.isKey_of_mem_ids hp)
  · exact (h.members p e hkey hfound).2 member hmember

/-- The name of an embedded id has no dot. -/
theorem plain_owner (h : g.WellKeyed) {p : Property} (hkey : g.entity.key = .embedded p) :
    '.' ∉ p.name.toList := by
  have hmem : p ∈ g.entity.properties.filter (·.isKey) := by
    rw [h.alone p hkey]
    exact List.mem_singleton_self p
  exact h.plain p (List.mem_filter.mp hmem).1 (List.mem_filter.mp hmem).2

/-- A part of the key of an entity is the value of its slot in the entity. -/
theorem partOf_keyOf (h : g.WellKeyed) (entity : Json) {part : Slot} (hpart : part ∈ g.keyParts) :
    g.partOf (g.keyOf entity) part = part.valueIn entity := by
  have hplain := h.plain_member hpart
  rcases h.part_cases hpart with
    ⟨p, hp, rfl, hkey | ⟨properties, keyClass, hkey⟩⟩ | ⟨p, e, hkey, _, member, _, rfl⟩
  · have hpath : pathNames (ownPart p).path = [p.name] := pathNames_of_plain hplain
    rw [partOf, keyOf, Slot.valueIn, hpath, hkey]
    rfl
  · have hpath : pathNames p.name = [p.name] := pathNames_of_plain hplain
    rw [partOf, keyOf, hkey]
    change (Json.object _).follow (pathNames p.name) = entity.follow (pathNames p.name)
    rw [hpath]
    exact field_ofIds hp entity
  · have hpath : pathNames (memberPart p member).path = p.name :: pathNames member.name :=
      pathNames_inside (h.plain_owner hkey) member.name
    rw [partOf, keyOf, Slot.valueIn, hpath, hkey]
    rfl

/-- A call whose whole parameter is a key finds the parts of the key under their names. -/
theorem value_member (h : g.WellKeyed) {s : Scope}
    (hcarries : s.Carries key (g.keyParts.map (·.member))) (hfits : g.FitsKey key) {part : Slot}
    (hpart : part ∈ g.keyParts) : s.value part.member = g.partOf key part := by
  have hmember : part.member ∈ g.keyParts.map (·.member) := List.mem_map_of_mem hpart
  rw [partOf]
  cases hsimple : g.entity.key.isSimple with
  | false =>
    have hrecord : key.IsRecord := by simpa [FitsKey, hsimple] using hfits
    exact hcarries.value hrecord hmember
  | true =>
    have hscalar : ∀ members, key ≠ .object members := by simpa [FitsKey, hsimple] using hfits
    have hpath : pathNames part.member = [part.member] :=
      pathNames_of_plain (h.plain_member hpart)
    have hnamed : key.named part.member = key := by
      cases key with
      | object members => exact absurd rfl (hscalar members)
      | _ => rfl
    rw [Scope.value_of_pathNames s hpath, Scope.root,
      hcarries.unbound part.member hmember part.member (by simp [hpath]), hcarries.parameter]
    exact hnamed

end WellKeyed

/-- A call whose whole parameter is a key compares the columns of the key with its parts. -/
theorem gives_keyMatch_parameter (h : g.WellKeyed) (hmatch : g.keyMatch .parameter = .ok t)
    {s : Scope} (hcarries : s.Carries key (g.keyParts.map (·.member)))
    (hfits : g.FitsKey key) : t.Gives s (g.matchSql (g.partOf key)) :=
  gives_keyMatch hmatch fun _ hpart => h.value_member hcarries hfits hpart

end Generator

end EntityMapping
