import EntityMapping.Proofs.Columns.Levels
import EntityMapping.Proofs.Columns.Reading
import EntityMapping.Proofs.Run.Failure
import EntityMapping.Proofs.Text.Lacking
import Mathlib.Data.List.Nodup
import Mathlib.Data.List.TakeWhile

/-!
# Slots and their paths

Slots are listed property by property until a property embeds a type that the catalog lacks, and
the first such type is the one that is reported.  A path starts with the name of a property of the
entity.  If these names are distinct and have no dots, the name is read off the path again, so
slots of different properties have different paths.

Main results:

- `Catalog.slotsOf_of_found`, `Catalog.slotsOf_eq_error_iff`: when there are slots, and what is
  reported otherwise.
- `Catalog.takeWhile_path`: a path tells the property.
- `Catalog.slots_by_property`: the slots of an entity, the fault without them, and when their
  paths are distinct.
-/

namespace EntityMapping

/-- The names of the properties are distinct and have no dots. -/
structure Entity.PlainlyNamed (e : Entity) : Prop where
  distinct : (e.properties.map (·.name)).Nodup
  lacks_dot : ∀ p ∈ e.properties, Lacks '.' p.name

namespace Catalog

variable {c : Catalog} {e : Entity} {p : Property} {ps : List Property}

/-! ## Missing types -/

/-- If no type is missing, the slots of properties are those of each. -/
theorem slotsOf_of_found (h : ∀ p ∈ ps, ¬ c.LacksType p) :
    c.slotsOf ps = .ok (ps.flatMap c.slotsIn) := by
  induction ps with
  | nil => rfl
  | cons p rest ih =>
    obtain ⟨hp, hrest⟩ := List.forall_mem_cons.mp h
    rw [slotsOf, slotsOfProperty_of_found hp, ih hrest]
    rfl

/-- The first missing type is reported. -/
theorem slotsOf_of_first {before : List Property} (hbefore : ∀ q ∈ before, ¬ c.LacksType q)
    (h : c.LacksType p) (after : List Property) :
    c.slotsOf (before ++ p :: after) = .error (.unknownEntity p.typeName) := by
  rw [slotsOf_append, slotsOf_of_found hbefore, slotsOf, slotsOfProperty_of_lacksType h]
  rfl

/-- The slots of properties are unknown if a type is missing, and the first one is reported. -/
theorem slotsOf_eq_error_iff {fault : MappingError} :
    c.slotsOf ps = .error fault ↔ ∃ before p after, ps = before ++ p :: after ∧
      (∀ q ∈ before, ¬ c.LacksType q) ∧ c.LacksType p ∧ fault = .unknownEntity p.typeName := by
  constructor
  · intro h
    obtain ⟨q, hq, hlacks⟩ := (fails_slotsOf_iff c ps).mp ⟨fault, h⟩
    obtain ⟨p, hfirst⟩ := Option.isSome_iff_exists.mp
      (List.find?_isSome.mpr ⟨q, hq, decide_eq_true hlacks⟩ :
        (ps.find? fun p => decide (c.LacksType p)).isSome = true)
    obtain ⟨hp, before, after, rfl, hbefore⟩ := List.find?_eq_some_iff_append.mp hfirst
    have hp : c.LacksType p := of_decide_eq_true hp
    have hbefore : ∀ q ∈ before, ¬ c.LacksType q := by simpa using hbefore
    rw [slotsOf_of_first hbefore hp after] at h
    exact ⟨before, p, after, rfl, hbefore, hp, (Except.error.inj h).symm⟩
  · rintro ⟨before, p, after, rfl, hbefore, hp, rfl⟩
    exact slotsOf_of_first hbefore hp after

/-! ## Paths -/

/-- A path starts with the name of the property, up to the first dot if that has none. -/
theorem takeWhile_path (hplain : Lacks '.' p.name) {s : Slot} (hs : s ∈ c.slotsIn p) :
    s.path.toList.takeWhile (· != '.') = p.name.toList := by
  have hname : ∀ d ∈ p.name.toList, (d != '.') = true := by
    intro d hd
    simpa using fun heq : d = '.' => hplain (heq ▸ hd)
  rcases path_of_mem_slotsIn hs with hpath | ⟨member, hpath⟩
  · rw [hpath]
    exact List.takeWhile_eq_self_iff.mpr hname
  · rw [hpath, String.toList_append, String.toList_append, List.append_assoc,
      List.takeWhile_append_of_pos hname]
    simp

/-- The paths of a property are distinct if the names of its members are. -/
theorem nodup_paths_slotsIn_iff : ((c.slotsIn p).map Slot.path).Nodup ↔
    (p.isEmbedded = true → ∀ inner, c.get? p.typeName = some inner →
      (inner.properties.map (·.name)).Nodup) := by
  cases hp : p.isEmbedded with
  | false => simp [slotsIn_own hp]
  | true =>
    cases hfound : c.get? p.typeName with
    | none => simp [slotsIn_missing hp hfound]
    | some inner =>
      have hpaths : (memberSlots p inner).map Slot.path =
          (inner.properties.map (·.name)).map (p.name ++ "." ++ ·) := by
        rw [memberSlots, List.map_map, List.map_map]
        rfl
      have hinjective : Function.Injective (p.name ++ "." ++ ·) := by
        intro a b h
        simpa only [← String.toList_inj, String.toList_append, List.append_right_inj] using h
      rw [slotsIn_embedded hp hfound, hpaths, List.nodup_map_iff hinjective]
      simp

/-- Slots of properties that are named apart have different paths. -/
theorem nodup_paths_iff (h : e.PlainlyNamed) :
    ((e.properties.flatMap c.slotsIn).map Slot.path).Nodup ↔
      ∀ inner, c.Embeds e inner → (inner.properties.map (·.name)).Nodup := by
  have hapart : e.properties.Pairwise fun p q =>
      List.Disjoint ((c.slotsIn p).map Slot.path) ((c.slotsIn q).map Slot.path) := by
    refine (List.pairwise_map.mp h.distinct).imp_of_mem ?_
    intro p q hp hq hne path hfirst hsecond
    obtain ⟨s, hs, rfl⟩ := List.mem_map.mp hfirst
    obtain ⟨t, ht, hpath⟩ := List.mem_map.mp hsecond
    have hname := takeWhile_path (h.lacks_dot p hp) hs
    rw [← hpath, takeWhile_path (h.lacks_dot q hq) ht] at hname
    exact hne (String.toList_inj.mp hname).symm
  rw [List.map_flatMap, List.nodup_flatMap, and_iff_left hapart]
  simp only [nodup_paths_slotsIn_iff]
  constructor
  · rintro hmembers inner ⟨p, hp, hembedded, hfound⟩
    exact hmembers p hp hembedded inner hfound
  · intro hmembers p hp hembedded inner hfound
    exact hmembers inner ⟨p, hp, hembedded, hfound⟩

/-- An entity has no slots exactly if a type that it embeds is missing; the first one in the order
of the properties is reported.  Otherwise there is one slot for each property that is not embedded,
and one for each member of the others, in order.  If the names of the properties are distinct and
have no dots, the paths are distinct exactly if the names of the members of each embedded type
are; dots in these do no harm. -/
theorem slots_by_property (c : Catalog) (e : Entity) :
    (Fails (c.slots e) ↔ ∃ p ∈ e.properties, c.LacksType p) ∧
      (∀ fault, c.slots e = .error fault ↔ ∃ before p after,
        e.properties = before ++ p :: after ∧ (∀ q ∈ before, ¬ c.LacksType q) ∧
          c.LacksType p ∧ fault = .unknownEntity p.typeName) ∧
      ((∀ p ∈ e.properties, ¬ c.LacksType p) → ∃ slots, c.slots e = .ok slots ∧
        slots = e.properties.flatMap c.slotsIn ∧
        (e.PlainlyNamed → ((slots.map Slot.path).Nodup ↔
          ∀ inner, c.Embeds e inner → (inner.properties.map (·.name)).Nodup))) := by
  refine ⟨fails_slotsOf_iff c e.properties, fun fault => slotsOf_eq_error_iff, fun hfound => ?_⟩
  exact ⟨_, slotsOf_of_found hfound, rfl, nodup_paths_iff⟩

/-! ## Transfers between accounts -/

/-- An account of a bank. -/
def account : Entity :=
  { Entity.plain "app::Account" "" with
    properties :=
      [Property.plain .basic "bank" "String" ⟨.plain "bank", .varchar⟩,
        Property.plain .basic "number" "i64" ⟨.plain "number", .bigint⟩]
    embeddable := true }

/-- A sum of money. -/
def money : Entity :=
  { Entity.plain "app::Money" "" with
    properties := [Property.plain .basic "amount" "f64" ⟨.plain "amount", .decimal⟩]
    embeddable := true }

/-- A transfer of a sum from one account to another. -/
def transfer : Entity :=
  { Entity.plain "app::Transfer" "transfers" with
    properties :=
      [Property.plain .id "id" "i64" ⟨.plain "id", .bigint⟩,
        Property.plain .embedded "payer" "app::Account" ⟨.plain "payer", .varchar⟩,
        Property.plain .embedded "sum" "app::Money" ⟨.plain "sum", .varchar⟩,
        Property.plain .embedded "payee" "app::Account" ⟨.plain "payee", .varchar⟩] }

/-- The two accounts of a transfer are told apart by their paths.  Without accounts and money in
the catalog the accounts are reported, and with accounts only the money. -/
theorem slots_by_property_transfers :
    (∃ slots, ((add .empty account).add money).slots transfer = .ok slots ∧
      slots.map Slot.path =
        ["id", "payer.bank", "payer.number", "sum.amount", "payee.bank", "payee.number"] ∧
      (slots.map Slot.path).Nodup) ∧
    slots .empty transfer = .error (.unknownEntity "app::Account") ∧
    (add .empty account).slots transfer = .error (.unknownEntity "app::Money") := by
  refine ⟨?_, ?_, ?_⟩
  · obtain ⟨-, -, hslots⟩ := slots_by_property ((add .empty account).add money) transfer
    obtain ⟨slots, hslots, rfl, hdistinct⟩ := hslots (by decide)
    have hmembers : ∀ p ∈ transfer.properties,
        ∀ inner ∈ ((add .empty account).add money).get? p.typeName,
          (inner.properties.map (·.name)).Nodup := by decide
    refine ⟨_, hslots, by decide, (hdistinct ⟨by decide, by decide⟩).mpr ?_⟩
    rintro inner ⟨p, hp, _, hfound⟩
    exact hmembers p hp inner hfound
  · obtain ⟨-, hfault, -⟩ := slots_by_property .empty transfer
    exact (hfault _).mpr ⟨[_], _, _, rfl, by decide, by decide, rfl⟩
  · obtain ⟨-, hfault, -⟩ := slots_by_property (add .empty account) transfer
    exact (hfault _).mpr ⟨[_, _], _, _, rfl, by decide, by decide, rfl⟩

end Catalog

end EntityMapping
