import EntityMapping.Proofs.Columns.KeyColumns
import EntityMapping.Proofs.Run.Degeneracy
import EntityMapping.Proofs.Run.MetadataTexts

/-!
# Views of a key

The key of an entity is seen as a key with its properties, as one property, as a type, as a yes or
no, and as the slots that are marked as key.  An embedded id comes before all other ids, and several
ids make a key only together with a key type; slots, however, are marked property by property.  The
views agree nonetheless, since a key always has a key property, whose slots are marked.

Main results:

- `Entity.keyProperty?_cases`: a key has a property, which belongs to the key.
- `Catalog.filter_isKey_of_simple`: a simple key has one slot.
- `Catalog.key_views_agree`: the views of a key agree.
-/

namespace EntityMapping

namespace Entity

/-- A key has a property, which belongs to the key; without a key there is none. -/
theorem keyProperty?_cases (e : Entity) :
    e.key = .none ∧ e.keyProperty? = none ∨
      e.key ≠ .none ∧ ∃ p ∈ e.properties, p.isKey = true ∧ e.keyProperty? = some p := by
  rcases e.key_cases with hkey | ⟨p, hp, hkey⟩ | ⟨p, hp, hkey⟩ | ⟨keyClass, _, hkey⟩
  · exact .inl ⟨hkey, by rw [keyProperty?, hkey]⟩
  · have hid : p ∈ e.ids := by simp [((key_simple_iff e p).mp hkey).2]
    exact .inr ⟨by simp [hkey], p, hp, isKey_of_mem_ids hid, by rw [keyProperty?, hkey]⟩
  · have hkeyed : p.isKey = true := by
      rw [Property.isKey, role_of_embedded hkey]
      rfl
    exact .inr ⟨by simp [hkey], p, hp, hkeyed, by rw [keyProperty?, hkey]⟩
  · -- Several ids make the key, and the first of them is its property.
    obtain ⟨id, hid⟩ := List.exists_mem_of_ne_nil _ (ids_of_composite hkey).2
    obtain ⟨p, hfound⟩ := Option.isSome_iff_exists.mp
      (List.find?_isSome.mpr ⟨id, (mem_ids_iff.mp hid).1, isKey_of_mem_ids hid⟩ :
        (e.properties.find? (·.isKey)).isSome = true)
    refine .inr ⟨by simp [hkey], p, List.mem_of_find?_eq_some hfound, ?_, ?_⟩
    · exact List.find?_some hfound
    · rw [keyProperty?, hkey]
      exact hfound

/-- An entity has a key exactly if it has a key property. -/
theorem key_eq_none_iff_keyProperty? (e : Entity) : e.key = .none ↔ e.keyProperty? = none := by
  rcases e.keyProperty?_cases with ⟨hkey, hnone⟩ | ⟨hkey, p, _, _, hsome⟩
  · exact iff_of_true hkey hnone
  · exact iff_of_false hkey (by simp [hsome])

/-- An entity has a key exactly if its key has a type. -/
theorem key_eq_none_iff_keyType? (e : Entity) : e.key = .none ↔ e.keyType? = none := by
  rw [← Option.not_isSome_iff_eq_none, keyType?_isSome, not_not]

/-- A key is composite if it is embedded or if its class joins several properties. -/
theorem hasCompositeKey_iff (e : Entity) : e.hasCompositeKey = true ↔
    (∃ p, e.key = .embedded p) ∨ ∃ ps keyClass, e.key = .composite ps keyClass := by
  unfold hasCompositeKey
  cases e.key <;> simp

end Entity

namespace Catalog

variable {c : Catalog} {e : Entity} {p : Property} {slots : List Slot}

/-- Properties that all have columns give the columns of the entity. -/
theorem exists_slots_of_hasColumns (h : ∀ p ∈ e.properties, c.HasColumns p) :
    ∃ slots, c.slots e = .ok slots := by
  refine not_fails_iff.mp fun hfails => ?_
  obtain ⟨p, hp, hembedded, hmissing⟩ := (fails_slotsOf_iff c e.properties).mp hfails
  obtain ⟨inner, hfound, _⟩ := h p hp hembedded
  rw [hmissing] at hfound
  cases hfound

/-- A key whose properties have columns has a slot. -/
theorem filter_isKey_ne_nil (hcolumns : ∀ p ∈ e.properties, c.HasColumns p)
    (hslots : c.slots e = .ok slots) (hkey : e.key ≠ .none) : slots.filter (·.isKey) ≠ [] := by
  rcases e.keyProperty?_cases with ⟨hnone, _⟩ | ⟨_, p, hp, hkeyed, _⟩
  · exact absurd hnone hkey
  · intro hnil
    exact (filter_slotsOf_eq_nil_iff id hslots).mp hnil p hp hkeyed (hcolumns p hp)

/-- A simple key has one slot, whatever else the entity embeds. -/
theorem filter_isKey_of_simple (hslots : c.slots e = .ok slots) (hkey : e.key = .simple p) :
    slots.filter (·.isKey) = [Generator.ownPart p] := by
  obtain ⟨hnone, hids⟩ := (Entity.key_simple_iff e p).mp hkey
  rw [Generator.filter_isKey_of_ids hslots hnone, hids]
  rfl

/-- The views of a key agree.  There is no key exactly if there is no key type, and exactly if
there is no key property.  A key is simple exactly if its property is the only id and no id is
embedded, and it has members exactly if it is embedded or composite.  If all embedded types are
there and have members, a key has a slot that is marked, and a simple key just that of its
property. -/
theorem key_views_agree (c : Catalog) (e : Entity) :
    (e.key = .none ↔ e.keyType? = none) ∧ (e.key = .none ↔ e.keyProperty? = none) ∧
      (∀ p, e.key = .simple p ↔
        (∀ q ∈ e.properties, q.role ≠ .embeddedId) ∧ e.properties.filter (·.role == .id) = [p]) ∧
      (e.hasCompositeKey = true ↔
        (∃ p, e.key = .embedded p) ∨ ∃ ps keyClass, e.key = .composite ps keyClass) ∧
      ((∀ p ∈ e.properties, c.HasColumns p) → ∃ slots, c.slots e = .ok slots ∧
        (e.key ≠ .none → slots.filter (·.isKey) ≠ []) ∧
        ∀ p, e.key = .simple p → slots.filter (·.isKey) = [⟨p.name, none, p.column, true⟩]) := by
  refine ⟨e.key_eq_none_iff_keyType?, e.key_eq_none_iff_keyProperty?, fun p => ?_,
    e.hasCompositeKey_iff, fun hcolumns => ?_⟩
  · rw [e.key_simple_iff, List.find?_eq_none]
    simp only [beq_iff_eq]
    rfl
  · obtain ⟨slots, hslots⟩ := exists_slots_of_hasColumns hcolumns
    exact ⟨slots, hslots, filter_isKey_ne_nil hcolumns hslots,
      fun p hkey => filter_isKey_of_simple hslots hkey⟩

/-- The key of a parcel is its own id, and not that of its sender. -/
theorem key_views_agree_parcels : ∃ id slots, Generator.parcels.entity.key = .simple id ∧
    Generator.parcels.catalog.slots Generator.parcels.entity = .ok slots ∧
    slots.map Slot.path = ["id", "sender.id", "sender.name"] ∧
    slots.filter (·.isKey) = [⟨"id", none, ⟨.plain "id", .bigint⟩, true⟩] := by
  have hcolumns : ∀ p ∈ Generator.parcels.entity.properties,
      Generator.parcels.catalog.HasColumns p := by
    have hheld : ∀ p ∈ Generator.parcels.entity.properties, p.isEmbedded = true →
        (Generator.parcels.catalog.get? p.typeName).any (!·.properties.isEmpty) = true := by decide
    intro p hp hembedded
    simpa [Option.any_eq_true] using hheld p hp hembedded
  obtain ⟨-, -, hsimple, -, hslots⟩ :=
    key_views_agree Generator.parcels.catalog Generator.parcels.entity
  obtain ⟨slots, hslots, -, hmarked⟩ := hslots hcolumns
  have hkey := (hsimple (Property.plain .id "id" "i64" ⟨.plain "id", .bigint⟩)).mpr (by decide)
  have hpaths : (Generator.parcels.catalog.slots Generator.parcels.entity).map
      (·.map Slot.path) = .ok ["id", "sender.id", "sender.name"] := by decide
  rw [hslots] at hpaths
  exact ⟨_, slots, hkey, hslots, Except.ok.inj hpaths, hmarked _ hkey⟩

end Catalog

end EntityMapping
