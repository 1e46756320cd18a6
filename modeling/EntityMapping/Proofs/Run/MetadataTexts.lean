import EntityMapping.Generation.Run
import EntityMapping.Proofs.Columns.Reading
import EntityMapping.Proofs.Engine.Sites

/-!
# Texts of the metadata

Apart from the fixed words of SQL and of the mapper language, the statements of a repository
consist of texts of its metadata: names of types, tables, properties and columns, texts of
conditions, and the sequence of a generated key.  What a rule says about these texts, it says
about all that is made of them.

Main results:

- `Entity.key_cases`: where the properties and the type of a key come from.
- `Generator.Obeys.table`, `Generator.Obeys.slot`, `Generator.Obeys.keySql`: names that are made
  of texts which a rule admits are admitted.
-/

namespace EntityMapping

open Generation

/-! ## Texts -/

/-- The texts of a condition. -/
def Condition.texts (c : Condition) : List String := c.column?.toList ++ c.operands

/-- The texts of a property. -/
def Property.texts (p : Property) : List String :=
  [p.name, p.typeName, p.column.name.text] ++ p.conditions.flatMap Condition.texts

/-- The texts of an entity. -/
def Entity.texts (e : Entity) : List String :=
  [e.typeName, e.table.text] ++ e.schema?.toList.map (·.text) ++ e.keyClass?.toList ++
    e.properties.flatMap Property.texts

/-- The sequence behind a generated key, be it a declared one or the default. -/
def Generator.keySequence? (g : Generator) : Option String :=
  match g.entity.key with
  | .simple p => p.generated?.map fun generation =>
      Generation.sequenceName g.entity p generation g.defaultSequence
  | _ => none

/-- The texts of a property apart from its type. -/
def Property.names (p : Property) : List String :=
  [p.name, p.column.name.text] ++ p.conditions.flatMap Condition.texts

/-- The names of tables, properties and columns, the texts of conditions and the sequence of a
generated key, with those of embedded entities. -/
def Generator.nameTexts (g : Generator) : List String :=
  [g.entity.table.text] ++ g.entity.schema?.toList.map (·.text) ++
    g.entity.properties.flatMap Property.names ++
    (g.entity.properties.filter (·.isEmbedded)).flatMap (fun p =>
      (g.catalog.get? p.typeName).toList.flatMap fun e => e.properties.flatMap Property.names) ++
    g.keySequence?.toList

/-- The texts that become paths of references: the names of properties and the operands of
conditions, and the names of embedded members. -/
def Generator.pathTexts (g : Generator) : List String :=
  g.entity.properties.map Property.name ++
    (conditionsOf g.entity).flatMap (fun pc => pc.2.operands) ++
    (g.entity.properties.filter (·.isEmbedded)).flatMap fun p =>
      (g.catalog.get? p.typeName).toList.flatMap fun e => e.properties.map Property.name

/-- The names of columns, with those of embedded members. -/
def Generator.columnTexts (g : Generator) : List String :=
  g.entity.properties.map (·.column.name.text) ++
    (g.entity.properties.filter (·.isEmbedded)).flatMap fun p =>
      (g.catalog.get? p.typeName).toList.flatMap fun e => e.properties.map (·.column.name.text)

/-- The other texts that become SQL: the table and its schema, what conditions compare in place of
columns, and the sequence of a generated key. -/
def Generator.sqlTexts (g : Generator) : List String :=
  [g.entity.table.text] ++ g.entity.schema?.toList.map (·.text) ++
    (conditionsOf g.entity).flatMap (fun pc => pc.2.column?.toList) ++ g.keySequence?.toList

/-- The names of types that the statements of the entity mention. -/
def Generator.typeTexts (g : Generator) : List String :=
  [g.entity.typeName] ++ g.entity.keyClass?.toList ++ g.entity.properties.map Property.typeName

namespace Generator

/-- The names of the metadata have those of the properties among them. -/
theorem property_names_subset {g : Generator} {p : Property} (hp : p ∈ g.entity.properties) :
    p.names ⊆ g.nameTexts := by
  intro text htext
  simp only [nameTexts, List.mem_append]
  exact .inl (.inl (.inr (List.mem_flatMap.mpr ⟨p, hp, htext⟩)))

/-- The names of the metadata have those of embedded members among them. -/
theorem member_names_subset {g : Generator} {p member : Property} {e : Entity}
    (hp : p ∈ g.entity.properties.filter (·.isEmbedded))
    (he : e ∈ (g.catalog.get? p.typeName).toList) (hmember : member ∈ e.properties) :
    member.names ⊆ g.nameTexts := by
  intro text htext
  refine List.mem_append_left _ (List.mem_append_right _ ?_)
  refine List.mem_flatMap.mpr ⟨p, hp, List.mem_flatMap.mpr ⟨e, he, ?_⟩⟩
  exact List.mem_flatMap.mpr ⟨member, hmember, htext⟩

/-- The texts of a condition are among the names of its property. -/
theorem condition_texts_subset {g : Generator} {pc : Property × Condition}
    (hpc : pc ∈ conditionsOf g.entity) : pc.2.texts ⊆ g.nameTexts := by
  obtain ⟨p, hp, hpc⟩ := List.mem_flatMap.mp hpc
  obtain ⟨c, hc, rfl⟩ := List.mem_map.mp hpc
  intro text htext
  apply property_names_subset hp
  exact List.mem_append_right _ (List.mem_flatMap.mpr ⟨c, hc, htext⟩)

/-- Texts that make up paths are copied as they are. -/
theorem pathTexts_subset (g : Generator) : g.pathTexts ⊆ g.nameTexts := by
  intro text htext
  simp only [pathTexts, List.mem_append, or_assoc] at htext
  rcases htext with htext | htext | htext
  · obtain ⟨p, hp, rfl⟩ := List.mem_map.mp htext
    exact property_names_subset hp (by simp [Property.names])
  · obtain ⟨pc, hpc, htext⟩ := List.mem_flatMap.mp htext
    exact condition_texts_subset hpc (List.mem_append_right _ htext)
  · obtain ⟨p, hp, htext⟩ := List.mem_flatMap.mp htext
    obtain ⟨e, he, htext⟩ := List.mem_flatMap.mp htext
    obtain ⟨member, hmember, rfl⟩ := List.mem_map.mp htext
    exact member_names_subset hp he hmember (by simp [Property.names])

/-- Names of columns are copied as they are. -/
theorem columnTexts_subset (g : Generator) : g.columnTexts ⊆ g.nameTexts := by
  intro text htext
  rcases List.mem_append.mp htext with htext | htext
  · obtain ⟨p, hp, rfl⟩ := List.mem_map.mp htext
    exact property_names_subset hp (by simp [Property.names])
  · obtain ⟨p, hp, htext⟩ := List.mem_flatMap.mp htext
    obtain ⟨e, he, htext⟩ := List.mem_flatMap.mp htext
    obtain ⟨member, hmember, rfl⟩ := List.mem_map.mp htext
    exact member_names_subset hp he hmember (by simp [Property.names])

/-- Texts that are SQL are copied as they are. -/
theorem sqlTexts_subset (g : Generator) : g.sqlTexts ⊆ g.nameTexts := by
  intro text htext
  simp only [sqlTexts, List.mem_append, or_assoc] at htext
  rcases htext with htext | htext | htext | htext
  · simp [nameTexts, List.mem_singleton.mp htext]
  · simp only [nameTexts, List.mem_append]
    exact .inl (.inl (.inl (.inr htext)))
  · obtain ⟨pc, hpc, htext⟩ := List.mem_flatMap.mp htext
    exact condition_texts_subset hpc (List.mem_append_left _ htext)
  · exact List.mem_append_right _ htext

end Generator

/-! ## Keys -/

/-- A key is a property of the entity, or all of its properties with its key class. -/
theorem Entity.key_cases (e : Entity) :
    e.key = .none ∨ (∃ p ∈ e.properties, e.key = .simple p) ∨
      (∃ p ∈ e.properties, e.key = .embedded p) ∨
        ∃ keyClass ∈ e.keyClass?, e.key = .composite e.properties keyClass := by
  unfold key
  cases hfound : e.properties.find? (·.role == .embeddedId) with
  | some p => exact .inr (.inr (.inl ⟨p, List.mem_of_find?_eq_some hfound, rfl⟩))
  | none =>
    rcases hids : e.ids with _ | ⟨p, _ | ⟨q, rest⟩⟩
    · exact .inl rfl
    · have hp : p ∈ e.ids := by
        rw [hids]
        exact List.mem_singleton_self p
      exact .inr (.inl ⟨p, (List.mem_filter.mp hp).1, rfl⟩)
    · cases hclass : e.keyClass? with
      | none => exact .inl rfl
      | some keyClass => exact .inr (.inr (.inr ⟨keyClass, rfl, rfl⟩))

/-- A simple key is a property of the entity. -/
theorem Entity.mem_of_key_simple {e : Entity} {p : Property} (h : e.key = .simple p) :
    p ∈ e.properties := by
  rcases e.key_cases with hkey | ⟨q, hq, hkey⟩ | ⟨q, _, hkey⟩ | ⟨_, _, hkey⟩
  · rw [hkey] at h
    cases h
  · rw [hkey] at h
    cases h
    exact hq
  · rw [hkey] at h
    cases h
  · rw [hkey] at h
    cases h

/-- A key property of a key that is not composed is the whole key. -/
theorem Entity.key_of_keyProperty? {e : Entity} {p : Property} (h : e.hasCompositeKey = false)
    (hp : e.keyProperty? = some p) : e.key = .simple p := by
  unfold hasCompositeKey at h
  unfold keyProperty? at hp
  cases hkey : e.key with
  | none => simp [hkey] at hp
  | simple q => simpa [hkey] using hp
  | embedded q => simp [hkey] at h
  | composite properties keyClass => simp [hkey] at h

/-! ## Rendered names -/

namespace Rule.IsLenient

variable {R : Rule} {site : Site}

/-- The quotes of the dialects may stand in the SQL and in the map of columns. -/
theorem render (hR : R.IsLenient) {i : Identifier} (h : R.Admits site i.text) (d : Dialect)
    (hsite : site = .text ∨ site = .entry) : R.Admits site (i.render d) := by
  unfold Identifier.render
  split
  · have hmarks : R.Admits site "\"" ∧ R.Admits site "\x60" := by
      rcases hsite with rfl | rfl
      · exact ⟨hR.word (by decide), hR.word (by decide)⟩
      · exact ⟨hR.word (by decide), hR.word (by decide)⟩
    cases d <;> simp [Dialect.quote, h, hmarks]
  · exact h

/-- The canonical form of an admitted name is admitted. -/
theorem canonical (hR : R.IsLenient) {i : Identifier} (h : R.Admits .text i.text) :
    R.Admits .text i.canonical := by
  unfold Identifier.canonical
  split
  · exact h
  · exact hR.lower _ h

end Rule.IsLenient

/-- The bare name of an admitted table is admitted. -/
theorem Rule.admits_bareTable {R : Rule} {site : Site} {table : String} (h : R.Admits site table) :
    R.Admits site (Dialect.bareTable table) := by
  refine admits_ofList.mpr fun c hc => ?_
  have htake := List.mem_reverse.mp (List.mem_filter.mp hc).1
  exact h c (List.mem_reverse.mp ((List.takeWhile_prefix _).subset htake))

/-! ## What is made of the texts -/

namespace Generator

variable {g : Generator} {R : Rule}

/-- The texts of the metadata may stand where they do: paths everywhere, columns everywhere but as
paths, other SQL in the SQL, and types where they are escaped. -/
structure Obeys (g : Generator) (R : Rule) : Prop where
  paths : ∀ text ∈ g.pathTexts, ∀ site, R.Admits site text
  columns : ∀ text ∈ g.columnTexts, ∀ site, site ≠ .path → R.Admits site text
  sql : ∀ text ∈ g.sqlTexts, R.Admits .text text
  types : ∀ text ∈ g.typeTexts, R.Admits .escaped text

/-- A rule is obeyed if it admits the names of the metadata everywhere. -/
theorem obeys_of_names (names : ∀ text ∈ g.nameTexts, ∀ site, R.Admits site text)
    (types : ∀ text ∈ g.typeTexts, R.Admits .escaped text) : g.Obeys R where
  paths text htext := names text (g.pathTexts_subset htext)
  columns text htext site _ := names text (g.columnTexts_subset htext) site
  sql text htext := names text (g.sqlTexts_subset htext) .text
  types := types

namespace Obeys

/-- The name of a property may stand everywhere. -/
theorem name (hg : g.Obeys R) {p : Property} (hp : p ∈ g.entity.properties) (site : Site) :
    R.Admits site p.name :=
  hg.paths _ (List.mem_append_left _ (List.mem_append_left _ (List.mem_map_of_mem hp))) site

/-- The column of a property may stand everywhere but as a path. -/
theorem column (hg : g.Obeys R) {p : Property} (hp : p ∈ g.entity.properties) {site : Site}
    (hsite : site ≠ .path) : R.Admits site p.column.name.text :=
  hg.columns _ (List.mem_append_left _ (List.mem_map.mpr ⟨p, hp, rfl⟩)) site hsite

/-- The operands of a condition may stand everywhere. -/
theorem operand (hg : g.Obeys R) {pc : Property × Condition} (hpc : pc ∈ conditionsOf g.entity)
    {operand : String} (h : operand ∈ operands pc.1 pc.2) (site : Site) : R.Admits site operand := by
  unfold operands at h
  split at h
  · obtain ⟨p, hp, hpc⟩ := List.mem_flatMap.mp hpc
    obtain ⟨c, _, rfl⟩ := List.mem_map.mp hpc
    exact List.mem_singleton.mp h ▸ hg.name hp site
  · refine hg.paths _ (List.mem_append_left _ (List.mem_append_right _ ?_)) site
    exact List.mem_flatMap.mpr ⟨pc, hpc, h⟩

/-- What a condition compares may stand in the SQL. -/
theorem compared (hg : g.Obeys R) (hR : R.IsLenient) {pc : Property × Condition}
    (hpc : pc ∈ conditionsOf g.entity) : R.Admits .text (comparedColumn pc.1 pc.2 g.dialect) := by
  have hown : R.Admits .text (pc.1.column.name.render g.dialect) := by
    obtain ⟨p, hp, hpc⟩ := List.mem_flatMap.mp hpc
    obtain ⟨c, _, rfl⟩ := List.mem_map.mp hpc
    exact hR.render (hg.column hp (by decide)) _ (.inl rfl)
  unfold comparedColumn
  split
  · next column hoverride =>
    split
    · exact hown
    · apply hg.sql
      refine List.mem_append_left _ (List.mem_append_right _ (List.mem_flatMap.mpr ⟨pc, hpc, ?_⟩))
      simp [hoverride]
  · exact hown

/-- The names and the columns of embedded members count as well. -/
theorem member (hg : g.Obeys R) {p member : Property} {e : Entity}
    (hp : p ∈ g.entity.properties) (hembedded : p.isEmbedded = true)
    (hfound : g.catalog.get? p.typeName = some e) (hmember : member ∈ e.properties) :
    (∀ site, R.Admits site member.name) ∧
      ∀ site, site ≠ .path → R.Admits site member.column.name.text := by
  have hp : p ∈ g.entity.properties.filter (·.isEmbedded) :=
    List.mem_filter.mpr ⟨hp, hembedded⟩
  have he : e ∈ (g.catalog.get? p.typeName).toList := Option.mem_toList.mpr hfound
  constructor
  · apply hg.paths
    refine List.mem_append_right _ (List.mem_flatMap.mpr ⟨p, hp, List.mem_flatMap.mpr ⟨e, he, ?_⟩⟩)
    exact List.mem_map_of_mem hmember
  · apply hg.columns
    refine List.mem_append_right _ (List.mem_flatMap.mpr ⟨p, hp, List.mem_flatMap.mpr ⟨e, he, ?_⟩⟩)
    exact List.mem_map.mpr ⟨member, hmember, rfl⟩

/-- The type of the entity is admitted. -/
theorem typeName (hg : g.Obeys R) : R.Admits .escaped g.entity.typeName :=
  hg.types _ (by simp [typeTexts])

/-- The type of a property is admitted. -/
theorem propertyType (hg : g.Obeys R) {p : Property} (hp : p ∈ g.entity.properties) :
    R.Admits .escaped p.typeName :=
  hg.types _ (List.mem_append_right _ (List.mem_map_of_mem hp))

/-- The type of the key is admitted. -/
theorem keyType (hg : g.Obeys R) {typeName : String} (htype : g.entity.keyType? = some typeName) :
    R.Admits .escaped typeName := by
  rcases g.entity.key_cases with hkey | ⟨p, hp, hkey⟩ | ⟨p, hp, hkey⟩ | ⟨keyClass, hclass, hkey⟩
  · simp [Entity.keyType?, hkey] at htype
  · simp only [Entity.keyType?, hkey, Option.some.injEq] at htype
    exact htype ▸ hg.propertyType hp
  · simp only [Entity.keyType?, hkey, Option.some.injEq] at htype
    exact htype ▸ hg.propertyType hp
  · simp only [Entity.keyType?, hkey, Option.some.injEq] at htype
    exact hg.types _ (by simp [typeTexts, ← htype, Option.mem_def.mp hclass])

/-- The table is admitted, with its schema and quotes. -/
theorem table (hg : g.Obeys R) (hR : R.IsLenient) : R.Admits .text g.table := by
  have htable : R.Admits .text g.entity.table.text := hg.sql _ (by simp [sqlTexts])
  unfold Generator.table Entity.tableName
  cases hschema : g.entity.schema? with
  | none => exact hR.render htable _ (.inl rfl)
  | some schema =>
    have htext : R.Admits .text schema.text := hg.sql _ (by simp [sqlTexts, hschema])
    have hdot : R.Admits .text "." := hR.word (by decide)
    simp [hR.render htext _ (.inl rfl), hR.render htable _ (.inl rfl), hdot]

/-- The path and the member of a slot, and its column in the SQL and in the map of columns. -/
theorem slot (hg : g.Obeys R) (hR : R.IsLenient) {slots : List Slot} (hslots : g.slots = .ok slots)
    {s : Slot} (hs : s ∈ slots) :
    (∀ site, R.Admits site s.path) ∧ (∀ site, R.Admits site s.member) ∧
      R.Admits .text (g.column s) ∧ R.Admits .entry (g.column s) := by
  rw [Catalog.slotsOf_eq_flatMap hslots] at hs
  obtain ⟨p, hp, hs⟩ := List.mem_flatMap.mp hs
  have hname : ∀ site, R.Admits site p.name := hg.name hp
  cases hembedded : p.isEmbedded with
  | false =>
    have htext : R.Admits .text p.column.name.text := hg.column hp (by decide)
    have hentry : R.Admits .entry p.column.name.text := hg.column hp (by decide)
    rw [Catalog.slotsIn_own hembedded, List.mem_singleton] at hs
    subst hs
    exact ⟨hname, hname, hR.render htext _ (.inl rfl), hR.render hentry _ (.inr rfl)⟩
  | true =>
    cases hfound : g.catalog.get? p.typeName with
    | none =>
      rw [Catalog.slotsIn_missing hembedded hfound] at hs
      cases hs
    | some e =>
      rw [Catalog.slotsIn_embedded hembedded hfound] at hs
      obtain ⟨member, hmember, rfl⟩ := List.mem_map.mp hs
      obtain ⟨hmemberName, hcolumn⟩ := hg.member hp hembedded hfound hmember
      refine ⟨fun site => ?_, hmemberName, hR.render (hcolumn .text (by decide)) _ (.inl rfl),
        hR.render (hcolumn .entry (by decide)) _ (.inr rfl)⟩
      have hdot : R.Admits site "." := hR.word (by cases site <;> decide)
      simp [Slot.path, hname, hmemberName, hdot]

end Obeys

/-- The SQL that obtains a generated key is made of its table, column and sequence. -/
theorem admits_keySql (hR : R.IsLenient) {e : Entity} {p : Property} {generation : KeyGeneration}
    {d : Dialect} {defaultSequence sql : String} {timing : KeyTiming}
    (htable : R.Admits .text (e.tableName d)) (hcolumn : R.Admits .text p.column.name.text)
    (hsequence : R.Admits .text (Generation.sequenceName e p generation defaultSequence))
    (hsql : Generation.keySql e p generation d defaultSequence = .ok (sql, timing)) :
    R.Admits .text sql := by
  unfold Generation.keySql at hsql
  split at hsql
  · obtain ⟨text, htext, heq⟩ := map_eq_ok.mp hsql
    cases heq
    cases d with
    | oracle => cases htext
    | postgres =>
      cases htext
      have hbare := Rule.admits_bareTable htable
      have hcanonical := hR.canonical hcolumn
      have hwords : R.Admits .text "select currval('" ∧ R.Admits .text "_" ∧
          R.Admits .text "_seq')" :=
        ⟨hR.word (by decide), hR.word (by decide), hR.word (by decide)⟩
      simp [hbare, hcanonical, hwords]
    | mysql =>
      cases htext
      exact hR.word (by decide)
    | h2 =>
      cases htext
      exact hR.word (by decide)
  · obtain ⟨text, htext, heq⟩ := map_eq_ok.mp hsql
    cases heq
    cases d with
    | mysql => cases htext
    | postgres =>
      cases htext
      have hwords : R.Admits .text "select nextval ('" ∧ R.Admits .text "')" :=
        ⟨hR.word (by decide), hR.word (by decide)⟩
      simp [hsequence, hwords]
    | h2 =>
      cases htext
      have hword : R.Admits .text "call next value for " := hR.word (by decide)
      simp [hsequence, hword]
    | oracle =>
      cases htext
      have hwords : R.Admits .text "select " ∧ R.Admits .text ".nextval from dual" :=
        ⟨hR.word (by decide), hR.word (by decide)⟩
      simp [hsequence, hwords]
  · cases hsql

/-- The SQL that obtains a key is admitted. -/
theorem Obeys.keySql (hg : g.Obeys R) (hR : R.IsLenient) {p : Property}
    {generation : KeyGeneration} {sql : String} {timing : KeyTiming}
    (hkey : g.entity.key = .simple p) (hgenerated : p.generated? = some generation)
    (hsql : Generation.keySql g.entity p generation g.dialect g.defaultSequence =
      .ok (sql, timing)) : R.Admits .text sql := by
  have hp := Entity.mem_of_key_simple hkey
  have hcolumn : R.Admits .text p.column.name.text := hg.column hp (by decide)
  have hsequence :
      R.Admits .text (Generation.sequenceName g.entity p generation g.defaultSequence) := by
    apply hg.sql
    simp [sqlTexts, keySequence?, hkey, hgenerated]
  exact admits_keySql hR (hg.table hR) hcolumn hsequence hsql

end Generator

end EntityMapping
