import EntityMapping.Proofs.Columns.Levels
import EntityMapping.Proofs.Columns.Reading
import EntityMapping.Proofs.Run.Failure
import Mathlib.Data.Finset.Max

/-!
# Flattening of nested values

Slots flatten one level of embedding.  A member that is itself embedded keeps the slot of its
placeholder, which no table has as a column, and the leaves below it have none; the result map
reads back the same columns.  So the leaves of an entity are mapped exactly if what it embeds
embeds nothing more.

Main results:

- `Catalog.deepens_slots`: the slots are the leaves but for placeholders in place of deeper ones.
- `Generator.flattens_iff_shallow`: exactly which entities have their leaves mapped.
-/

namespace EntityMapping

/-! ## Columns under paths -/

/-- A leaf's path and column. -/
def Leaf.place (l : Leaf) : String × Column := (l.path, l.property.column)

/-- A slot's path and column. -/
def Slot.place (s : Slot) : String × Column := (s.path, s.column)

/-- A property's name and column. -/
def Property.place (p : Property) : String × Column := (p.name, p.column)

/-- What is under a path, seen from an owner. -/
def underOwner {α : Type} (owner : String) (x : String × α) : String × α :=
  (owner ++ "." ++ x.1, x.2)

/-! ## Listings that differ in depth -/

/-- Two listings agree but for the extra entries of the first, in whose place the second has
entries with longer paths. -/
def Deepens {α : Type} (extra first second : List (String × α)) : Prop :=
  ∃ common deeper, first.Perm (common ++ extra) ∧ second.Perm (common ++ deeper) ∧
    ∀ x ∈ deeper, ∃ y ∈ extra, y.1.length < x.1.length

namespace Deepens

variable {α β : Type} {extra extra' first first' second second' : List (String × α)}

/-- A list deepens to itself, with nothing replaced. -/
theorem refl (l : List (String × α)) : Deepens [] l l :=
  ⟨l, [], by simp, by simp, by simp⟩

/-- Lists that are joined deepen part by part. -/
theorem append (h : Deepens extra first second) (h' : Deepens extra' first' second') :
    Deepens (extra ++ extra') (first ++ first') (second ++ second') := by
  obtain ⟨common, deeper, hfirst, hsecond, hdeeper⟩ := h
  obtain ⟨common', deeper', hfirst', hsecond', hdeeper'⟩ := h'
  have hswap : ∀ a b c d : List (String × α),
      ((a ++ b) ++ (c ++ d)).Perm ((a ++ c) ++ (b ++ d)) := by
    intro a b c d
    rw [List.append_assoc, List.append_assoc]
    refine List.Perm.append_left a ?_
    rw [← List.append_assoc, ← List.append_assoc]
    exact List.perm_append_comm.append_right d
  refine ⟨common ++ common', deeper ++ deeper', (hfirst.append hfirst').trans (hswap ..),
    (hsecond.append hsecond').trans (hswap ..), fun x hx => ?_⟩
  rcases List.mem_append.mp hx with hx | hx
  · obtain ⟨y, hy, hlonger⟩ := hdeeper x hx
    exact ⟨y, List.mem_append_left _ hy, hlonger⟩
  · obtain ⟨y, hy, hlonger⟩ := hdeeper' x hx
    exact ⟨y, List.mem_append_right _ hy, hlonger⟩

/-- A change of the entries that keeps the order of path lengths keeps the difference. -/
theorem map (h : Deepens extra first second) {f : String × α → String × β}
    (hf : ∀ x y, x.1.length < y.1.length → (f x).1.length < (f y).1.length) :
    Deepens (extra.map f) (first.map f) (second.map f) := by
  obtain ⟨common, deeper, hfirst, hsecond, hdeeper⟩ := h
  refine ⟨common.map f, deeper.map f, ?_, ?_, fun z hz => ?_⟩
  · rw [← List.map_append]
    exact hfirst.map f
  · rw [← List.map_append]
    exact hsecond.map f
  · obtain ⟨x, hx, rfl⟩ := List.mem_map.mp hz
    obtain ⟨y, hy, hlonger⟩ := hdeeper x hx
    exact ⟨f y, List.mem_map_of_mem hy, hf y x hlonger⟩

/-- Lists still deepen once all their paths begin with the same owner. -/
theorem under (h : Deepens extra first second) (owner : String) :
    Deepens (extra.map (underOwner owner)) (first.map (underOwner owner))
      (second.map (underOwner owner)) :=
  h.map fun x y hlonger => by
    simp only [underOwner, String.length_append]
    omega

/-- What is replaced was there before. -/
theorem subset (h : Deepens extra first second) : extra ⊆ first := by
  obtain ⟨common, deeper, hfirst, _, _⟩ := h
  intro x hx
  exact hfirst.mem_iff.mpr (List.mem_append_right common hx)

/-- The listings hold the same entries exactly if nothing is extra: of the extra entries, one
with a shortest path has no counterpart. -/
theorem perm_iff (h : Deepens extra first second) : first.Perm second ↔ extra = [] := by
  classical
  obtain ⟨common, deeper, hfirst, hsecond, hdeeper⟩ := h
  constructor
  · intro hperm
    have hrest : extra.Perm deeper :=
      (List.perm_append_left_iff common).mp ((hfirst.symm.trans hperm).trans hsecond)
    by_contra hne
    have hsome : extra.toFinset.Nonempty := (List.toFinset_nonempty_iff extra).mpr hne
    obtain ⟨x, hx, hshortest⟩ := extra.toFinset.exists_min_image (fun x => x.1.length) hsome
    obtain ⟨y, hy, hlonger⟩ := hdeeper x (hrest.mem_iff.mp (List.mem_toFinset.mp hx))
    exact absurd hlonger (Nat.not_lt.mpr (hshortest y (List.mem_toFinset.mpr hy)))
  · rintro rfl
    have hnone : deeper = [] := by
      refine List.eq_nil_iff_forall_not_mem.mpr fun x hx => ?_
      obtain ⟨y, hy, _⟩ := hdeeper x hx
      cases hy
    rw [hnone] at hsecond
    exact hfirst.trans hsecond.symm

end Deepens

/-! ## Slots and leaves -/

namespace Catalog

variable {c : Catalog} {ps : List Property} {leaves : List Leaf} {slots : List Slot}

/-- What an entity embeds embeds nothing more. -/
def Shallow (c : Catalog) (e : Entity) : Prop :=
  ∀ inner, c.Embeds e inner → ∀ member ∈ inner.properties, member.isEmbedded = false

/-- The places of the members that are embedded themselves: their columns are placeholders. -/
def placeholders (c : Catalog) (ps : List Property) : List (String × Column) :=
  ps.flatMap fun p =>
    if p.isEmbedded then
      (c.get? p.typeName).toList.flatMap fun inner =>
        ((inner.properties.filter (·.isEmbedded)).map Property.place).map (underOwner p.name)
    else []

/-- A property with a column of its own adds no placeholder. -/
theorem placeholders_cons_own {p : Property} (h : p.isEmbedded = false) (rest : List Property) :
    c.placeholders (p :: rest) = c.placeholders rest := by
  simp [placeholders, h]

/-- An embedded property adds a placeholder for each property that is embedded in its type. -/
theorem placeholders_cons_embedded {p : Property} {inner : Entity} (h : p.isEmbedded = true)
    (hfound : c.get? p.typeName = some inner) (rest : List Property) :
    c.placeholders (p :: rest) =
      ((inner.properties.filter (·.isEmbedded)).map Property.place).map (underOwner p.name) ++
        c.placeholders rest := by
  simp [placeholders, h, hfound]

/-- There are no placeholders exactly if no embedded type embeds another. -/
theorem placeholders_eq_nil_iff (e : Entity) :
    c.placeholders e.properties = [] ↔ c.Shallow e := by
  constructor
  · rintro h inner ⟨p, hp, hembedded, hfound⟩ member hmember
    by_contra hnested
    rw [Bool.not_eq_false] at hnested
    refine List.not_mem_nil (a := underOwner p.name member.place) (h ▸ ?_)
    refine List.mem_flatMap.mpr ⟨p, hp, ?_⟩
    rw [if_pos hembedded, hfound]
    have hfiltered : member ∈ inner.properties.filter (·.isEmbedded) :=
      List.mem_filter.mpr ⟨hmember, hnested⟩
    simpa using List.mem_map_of_mem (f := fun m => underOwner p.name (Property.place m)) hfiltered
  · intro h
    refine List.flatMap_eq_nil_iff.mpr fun p hp => ?_
    split
    · next hembedded =>
      refine List.flatMap_eq_nil_iff.mpr fun inner hinner => ?_
      have hfound : c.get? p.typeName = some inner := by simpa using hinner
      have hnone : inner.properties.filter (·.isEmbedded) = [] :=
        List.filter_eq_nil_iff.mpr fun member hmember => by
          simp [h inner ⟨p, hp, hembedded, hfound⟩ member hmember]
      rw [hnone]
      rfl
    · rfl

/-- Members of one level are the leaves below them but for those that are embedded. -/
theorem deepens_members (h : c.Leaves ps leaves) :
    Deepens ((ps.filter (·.isEmbedded)).map Property.place) (ps.map Property.place)
      (leaves.map Leaf.place) := by
  induction h with
  | nil => exact .refl []
  | @own p rest others hown _ ih =>
    have hstep := (Deepens.refl [p.place]).append ih
    simpa [hown, Property.place, Leaf.place] using hstep
  | @embedded p e rest inner others hembedded hfound _ _ _ ih =>
    have hdeeper : Deepens [p.place] [p.place] ((inner.map (Leaf.under p.name)).map Leaf.place) := by
      refine ⟨[], _, by simp, .refl _, fun x hx => ⟨p.place, List.mem_singleton_self _, ?_⟩⟩
      rw [List.map_map] at hx
      obtain ⟨leaf, _, rfl⟩ := List.mem_map.mp hx
      simp only [Function.comp_apply, Leaf.place, Leaf.under, Property.place, String.length_append]
      have hdot : (".").length = 1 := rfl
      omega
    have hstep := hdeeper.append ih
    simpa [hembedded] using hstep

/-- The slots are the leaves but for placeholders in place of deeper leaves. -/
theorem deepens_slots (h : c.Leaves ps leaves) (hslots : c.slotsOf ps = .ok slots) :
    Deepens (c.placeholders ps) (slots.map Slot.place) (leaves.map Leaf.place) := by
  induction h generalizing slots with
  | nil =>
    cases hslots
    exact .refl []
  | @own p rest others hown _ ih =>
    obtain ⟨first, hfirst, hslots⟩ := bind_eq_ok.mp hslots
    obtain ⟨later, hlater, hslots⟩ := bind_eq_ok.mp hslots
    cases hslots
    rw [slotsOfProperty, hown] at hfirst
    cases hfirst
    rw [placeholders_cons_own hown]
    exact (Deepens.refl [p.place]).append (ih hlater)
  | @embedded p e rest inner others hembedded hfound hinner _ _ ih =>
    obtain ⟨first, hfirst, hslots⟩ := bind_eq_ok.mp hslots
    obtain ⟨later, hlater, hslots⟩ := bind_eq_ok.mp hslots
    cases hslots
    rw [slotsOfProperty, if_pos hembedded, required, hfound] at hfirst
    cases hfirst
    rw [placeholders_cons_embedded hembedded hfound]
    have hmembers := ((deepens_members hinner).under p.name).append (ih hlater)
    simpa [Function.comp_def, Slot.place, Slot.path, Leaf.place, Leaf.under, Property.place,
      underOwner] using hmembers

end Catalog

/-! ## Mapped leaves -/

/-- A place as a result map names it. -/
def namedPlace (x : String × Column) : String × String × JdbcType := (x.1, x.2.named)

namespace Generator

variable {g : Generator}

/-- If all embedded types are there, at every level, none is missing at the first. -/
theorem not_lacksEmbedded_of_complete (h : g.catalog.Complete g.entity) : ¬ g.LacksEmbedded := by
  rintro ⟨p, hp, hembedded, hmissing⟩
  rw [h g.entity .refl p hp hembedded] at hmissing
  cases hmissing

/-- The leaves of an entity are mapped, and read back, exactly if what the entity embeds embeds
nothing more.  Otherwise the placeholders of what is embedded deeper are mapped and read back
in their place. -/
theorem flattens_iff_shallow (hacyclic : g.catalog.Acyclic)
    (hcomplete : g.catalog.Complete g.entity) :
    ∃ slots leaves results, g.slots = .ok slots ∧
      g.catalog.Leaves g.entity.properties leaves ∧ g.resultMapStatement = .ok results ∧
      ((slots.map Slot.place).Perm (leaves.map Leaf.place) ↔ g.catalog.Shallow g.entity) ∧
      ((results.body.resultEntries.map ResultEntry.place).Perm
          (leaves.map fun l => namedPlace l.place) ↔ g.catalog.Shallow g.entity) ∧
      ∀ x ∈ g.catalog.placeholders g.entity.properties,
        x ∈ slots.map Slot.place ∧
          namedPlace x ∈ results.body.resultEntries.map ResultEntry.place := by
  have hembedded := not_lacksEmbedded_of_complete hcomplete
  obtain ⟨slots, hslots⟩ := not_fails_iff.mp (fails_slots_iff.not.mpr hembedded)
  obtain ⟨results, hresults⟩ :=
    not_fails_iff.mp (fails_resultMapStatement_iff.not.mpr hembedded)
  obtain ⟨leaves, hleaves⟩ := Catalog.exists_leaves hacyclic hcomplete
  have hdeepens := Catalog.deepens_slots hleaves hslots
  have hnamed := hdeepens.map (f := namedPlace) fun _ _ hlonger => hlonger
  have hread := resultEntries_perm_slots hresults hslots
  have hplaces : (slots.map Slot.place).map namedPlace =
      slots.map fun s => (s.path, s.column.named) := by
    rw [List.map_map]
    rfl
  rw [hplaces, List.map_map] at hnamed
  refine ⟨slots, leaves, results, hslots, hleaves, hresults, ?_, ?_, fun x hx => ⟨?_, ?_⟩⟩
  · rw [hdeepens.perm_iff, Catalog.placeholders_eq_nil_iff]
  · rw [← Catalog.placeholders_eq_nil_iff, ← List.map_eq_nil_iff (f := namedPlace),
      ← hnamed.perm_iff]
    exact ⟨hread.symm.trans, hread.trans⟩
  · exact hdeepens.subset hx
  · exact hread.mem_iff.mpr (hnamed.subset (List.mem_map_of_mem hx))

/-! ## Shops with a position in their address -/

/-- A position. -/
def position : Entity :=
  let degrees (name : String) := Property.plain .basic name "f64" ⟨.plain name, .double⟩
  { Entity.plain "app::Position" "" with
    properties := [degrees "lat", degrees "lng"]
    embeddable := true }

/-- An address with a position. -/
def address : Entity :=
  { Entity.plain "app::Address" "" with
    properties :=
      [Property.plain .basic "city" "String" ⟨.plain "city", .varchar⟩,
        Property.plain .embedded "position" "app::Position" ⟨.plain "position", .varchar⟩]
    embeddable := true }

/-- A shop with an address. -/
def shop : Entity :=
  { Entity.plain "app::Shop" "shops" with
    properties :=
      [Property.plain .id "id" "i64" ⟨.plain "id", .bigint⟩,
        Property.plain .embedded "address" "app::Address" ⟨.plain "address", .varchar⟩] }

/-- Shops, with addresses and positions in the catalog. -/
def shops : Generator where
  catalog := ((Catalog.add .empty position).add address).add shop
  dialect := .postgres
  repository := ⟨"app::Shops", "app::Shop", false⟩
  entity := shop
  defaultSequence := "shop_seq"

/-- The catalog holds these three types. -/
theorem held_shops {typeName : String} {e : Entity} (h : shops.catalog.get? typeName = some e) :
    typeName = "app::Shop" ∧ e = shop ∨ typeName = "app::Address" ∧ e = address ∨
      typeName = "app::Position" ∧ e = position := by
  simp only [shops, Catalog.add, SortedMap.get?_insert, SortedMap.get?_empty] at h
  split at h
  · next hshop => exact .inl ⟨hshop, (Option.some.inj h).symm⟩
  · split at h
    · next haddress => exact .inr (.inl ⟨haddress, (Option.some.inj h).symm⟩)
    · split at h
      · next hposition => exact .inr (.inr ⟨hposition, (Option.some.inj h).symm⟩)
      · cases h

/-- How many levels lie below an entity; more than below a shop if it is another one. -/
def depth (e : Entity) : Nat :=
  if e = position then 0 else if e = address then 1 else if e = shop then 2 else 3

/-- No type of the shops embeds itself. -/
theorem shops_acyclic : shops.catalog.Acyclic := by
  refine Catalog.acyclic_of_measure depth fun outer inner hembeds => ?_
  obtain ⟨p, hp, hembedded, hfound⟩ := hembeds
  have hposition : depth position = 0 := by decide
  have haddress : depth address = 1 := by decide
  have hshop : depth shop = 2 := by decide
  by_cases houter : outer = position
  · subst houter
    have hplain : ∀ p ∈ position.properties, p.isEmbedded = false := by decide
    rw [hplain p hp] at hembedded
    cases hembedded
  · by_cases houter' : outer = address
    · subst houter'
      have htype : ∀ p ∈ address.properties, p.isEmbedded = true →
          p.typeName = "app::Position" := by decide
      rcases held_shops hfound with ⟨hname, _⟩ | ⟨hname, _⟩ | ⟨_, rfl⟩
      · exact absurd ((htype p hp hembedded).symm.trans hname) (by decide)
      · exact absurd ((htype p hp hembedded).symm.trans hname) (by decide)
      · omega
    · by_cases houter'' : outer = shop
      · subst houter''
        have htype : ∀ p ∈ shop.properties, p.isEmbedded = true →
            p.typeName = "app::Address" := by decide
        rcases held_shops hfound with ⟨hname, _⟩ | ⟨_, rfl⟩ | ⟨hname, _⟩
        · exact absurd ((htype p hp hembedded).symm.trans hname) (by decide)
        · omega
        · exact absurd ((htype p hp hembedded).symm.trans hname) (by decide)
      · have hother : depth outer = 3 := by
          simp [depth, houter, houter', houter'']
        rcases held_shops hfound with ⟨_, rfl⟩ | ⟨_, rfl⟩ | ⟨_, rfl⟩
        · omega
        · omega
        · omega

/-- All types that a shop embeds are registered. -/
theorem shops_complete : shops.catalog.Complete shops.entity := by
  intro inner hinner p hp hembedded
  have hheld : inner = shop ∨ inner = address ∨ inner = position := by
    rcases hinner.cases_tail with rfl | ⟨outer, _, _, _, _, hfound⟩
    · exact .inl rfl
    · rcases held_shops hfound with ⟨_, rfl⟩ | ⟨_, rfl⟩ | ⟨_, rfl⟩
      · exact .inl rfl
      · exact .inr (.inl rfl)
      · exact .inr (.inr rfl)
  have hcontains : ∀ e ∈ [shop, address, position], ∀ p ∈ e.properties, p.isEmbedded = true →
      shops.catalog.contains p.typeName = true := by decide
  exact hcontains inner (by simpa using hheld) p hp hembedded

/-- The columns of a shop are those of its own, its address and the position in it. -/
theorem leaves_shop : ∃ leaves, shops.catalog.Leaves shop.properties leaves ∧
    leaves.map (·.path) =
      ["id", "address.city", "address.position.lat", "address.position.lng"] := by
  have hposition : shops.catalog.get? "app::Position" = some position := by decide
  have haddress : shops.catalog.get? "app::Address" = some address := by decide
  have hdegrees : shops.catalog.Leaves position.properties _ := .own rfl (.own rfl .nil)
  have hcity : shops.catalog.Leaves address.properties _ :=
    .own rfl (.embedded rfl hposition hdegrees .nil)
  have hshop : shops.catalog.Leaves shop.properties _ :=
    .own rfl (.embedded rfl haddress hcity .nil)
  exact ⟨_, hshop, by decide⟩

/-- The position in the address of a shop has a column of its own, and its degrees have none. -/
theorem flattens_iff_shallow_shops : ∃ slots leaves results, shops.slots = .ok slots ∧
    shops.catalog.Leaves shop.properties leaves ∧ shops.resultMapStatement = .ok results ∧
    ¬ (slots.map Slot.place).Perm (leaves.map Leaf.place) ∧
    ("address.position", Property.placeholder "position") ∈ slots.map Slot.place := by
  obtain ⟨slots, leaves, results, hslots, hleaves, hresults, hmapped, _, hplaceholders⟩ :=
    flattens_iff_shallow shops_acyclic shops_complete
  have hplaceholder : ("address.position", Property.placeholder "position") ∈
      shops.catalog.placeholders shops.entity.properties := by decide
  refine ⟨slots, leaves, results, hslots, hleaves, hresults, ?_, (hplaceholders _ hplaceholder).1⟩
  rw [hmapped, ← Catalog.placeholders_eq_nil_iff]
  exact List.ne_nil_of_mem hplaceholder

/-- A catalog without circles that holds all types, and an entity with a leaf that no slot and
no entry of the result map has, and with a slot and an entry for what is embedded. -/
theorem shop_leaf_unmapped : shops.catalog.Acyclic ∧ shops.catalog.Complete shops.entity ∧
    ∃ slots leaves results, shops.slots = .ok slots ∧
      shops.catalog.Leaves shops.entity.properties leaves ∧
      shops.resultMapStatement = .ok results ∧
      slots.map (·.path) = ["id", "address.city", "address.position"] ∧
      results.body.resultEntries.map (·.path) = ["id", "address.city", "address.position"] ∧
      leaves.map (·.path) =
        ["id", "address.city", "address.position.lat", "address.position.lng"] ∧
      ¬ (slots.map Slot.place).Perm (leaves.map Leaf.place) := by
  obtain ⟨slots, hslots⟩ := isOk_iff.mp (by decide : shops.slots.isOk = true)
  obtain ⟨results, hresults⟩ :=
    isOk_iff.mp (by decide : shops.resultMapStatement.isOk = true)
  have hpaths : shops.slots.map (fun slots => slots.map (·.path)) =
      .ok ["id", "address.city", "address.position"] := by decide
  have hentries : shops.resultMapStatement.map (fun s => s.body.resultEntries.map (·.path)) =
      .ok ["id", "address.city", "address.position"] := by decide
  rw [hslots] at hpaths
  rw [hresults] at hentries
  obtain ⟨leaves, hleaves, hdeep⟩ := leaves_shop
  refine ⟨shops_acyclic, shops_complete, slots, leaves, results, hslots, hleaves, hresults,
    Except.ok.inj hpaths, Except.ok.inj hentries, hdeep, fun hperm => ?_⟩
  have hfewer : slots.length = 3 := by
    simpa using congrArg List.length (Except.ok.inj hpaths)
  have hmore : leaves.length = 4 := by
    simpa using congrArg List.length hdeep
  have hequal : slots.length = leaves.length := by
    simpa using hperm.length_eq
  omega

end Generator

end EntityMapping
