import EntityMapping.Proofs.Writing.Insert

/-!
# Keys of inserted rows

An insertion says three times where the key of the new row comes from: in its attributes, in the
metadata beside them, and in the element in front of its SQL that selects a generated key.  All
three follow from the one key property of the entity; without a single key property there is
none of them.

Main results:

- `Generation.timing_of_keySql`: a sequence is read before the insertion and an identity column
  after it.
- `Generation.keySelect_auto`: every dialect serves the strategy of its own choice.
- `Generator.of_insertStatement`: the parts of an insertion.
- `Generator.insertions_tell_key`: what the parts of an insertion say about the key.
-/

namespace EntityMapping

namespace Generation

variable {e : Entity} {p : Property} {generation : KeyGeneration} {d : Dialect}
  {default sql : String} {timing : KeyTiming}

/-- A sequence is read before the insertion and an identity column after it. -/
theorem timing_of_keySql (h : keySql e p generation d default = .ok (sql, timing)) :
    (timing = .before ↔ resolvedStrategy generation d = .sequence) ∧
      (timing = .after ↔ resolvedStrategy generation d = .identity) := by
  unfold keySql at h
  split at h
  · next hidentity =>
    obtain ⟨_, _, heq⟩ := map_eq_ok.mp h
    cases heq
    simp [hidentity]
  · next hsequence =>
    obtain ⟨_, _, heq⟩ := map_eq_ok.mp h
    cases heq
    simp [hsequence]
  · cases h

/-- Every dialect serves the strategy of its own choice. -/
theorem keySelect_auto (e : Entity) (p : Property) (d : Dialect) (default : String)
    (hauto : generation.strategy = .auto) :
    ∃ select timing, keySelect e p generation d default = .ok (select, timing) := by
  have hserved : ¬ Unserved d generation.strategy := by
    rw [hauto]
    exact id
  obtain ⟨⟨select, timing⟩, hselect⟩ :=
    not_fails_iff.mp ((fails_keySelect_iff e p generation d default).not.mpr hserved)
  exact ⟨select, timing, hselect⟩

end Generation

/-- The text begins with an element that selects a key. -/
def SelectsKey (text : String) : Prop := ∃ rest, text = "<selectKey " ++ rest

/-- A body with the element selects the key. -/
theorem selectsKey_print {property column typeName : String} {timing : KeyTiming}
    {body : Template} (rest : Template) :
    SelectsKey (Template.selectKey property column timing typeName body ++ rest).print := by
  refine ⟨"keyProperty=\"" ++ property ++ "\" keyColumn=\"" ++ column ++ "\" order=\"" ++
    timing.name ++ "\"" ++ Xml.printAttribute "resultType" typeName ++ ">" ++ body.print ++
    "</selectKey>" ++ rest.print, ?_⟩
  apply String.toList_inj.mp
  simp [Template.print_selectKey]

namespace Generator

variable {g : Generator} {selective : Bool} {s : Statement} {p : Property}

/-! ## The parts of an insertion -/

/-- The SQL of an insertion. -/
def insertion (g : Generator) (selective : Bool) (slots : List Slot) : Template :=
  if selective then g.insertPresent slots else g.insertAll slots

/-- The SQL of an insertion comes behind the selection of the key. -/
theorem of_insertStatement (h : g.insertStatement selective = .ok s) :
    ∃ select slots, g.insertKey = .ok (select, s.key?) ∧
      s.body = select ++ g.insertion selective slots := by
  obtain ⟨⟨select, key?⟩, hkey, h⟩ := bind_eq_ok.mp h
  obtain ⟨slots, _, h⟩ := bind_eq_ok.mp h
  cases h
  exact ⟨select, slots, hkey, rfl⟩

/-- The insertion is made if its key is selected and its columns are known. -/
theorem exists_insertStatement {select : Template} {key? : Option KeyInfo}
    (hkey : g.insertKey = .ok (select, key?)) (hembedded : ¬ g.LacksEmbedded) (selective : Bool) :
    ∃ s slots, g.insertStatement selective = .ok s ∧
      s.body = select ++ g.insertion selective slots ∧ s.key? = key? := by
  obtain ⟨slots, hslots⟩ := not_fails_iff.mp (fails_slots_iff.not.mpr hembedded)
  exact ⟨_, slots, bind_eq_ok.mpr ⟨_, hkey, bind_eq_ok.mpr ⟨_, hslots, rfl⟩⟩, rfl, rfl⟩

/-- An insertion alone does not select the key. -/
theorem not_selectsKey_insertion (slots : List Slot) :
    ¬ SelectsKey (g.insertion selective slots).print := by
  rintro ⟨rest, h⟩
  have hinsert : (g.insertion selective slots).print.toList.head? = some 'i' := by
    cases selective <;> simp [insertion, insertAll, insertPresent]
  rw [h] at hinsert
  simp at hinsert

/-! ## The selection of a key -/

/-- Without a single key property no key is selected or recorded. -/
theorem insertKey_of_not_simple (h : ∀ p, g.entity.key ≠ .simple p) :
    g.insertKey = .ok (.empty, none) := by
  unfold insertKey Entity.hasCompositeKey Entity.keyProperty?
  cases hkey : g.entity.key with
  | none => rfl
  | embedded p => rfl
  | composite ps keyClass => simp
  | simple p => exact absurd hkey (h p)

/-- A single key property that is not generated is recorded. -/
theorem insertKey_of_given (hkey : g.entity.key = .simple p) (h : p.generated? = none) :
    g.insertKey = .ok (.empty, some ⟨p.name, p.column.name.text, false, none⟩) := by
  simp only [insertKey, Entity.hasCompositeKey, Entity.keyProperty?, hkey, h]

/-- A single key property that is generated is recorded, and selected by its SQL. -/
theorem insertKey_of_generated {generation : KeyGeneration} (hkey : g.entity.key = .simple p)
    (h : p.generated? = some generation) :
    g.insertKey = (Generation.keySql g.entity p generation g.dialect g.defaultSequence).map
      fun (sql, timing) =>
        (.selectKey p.name p.column.name.text timing p.typeName (.text sql),
          some ⟨p.name, p.column.name.text, true, some timing⟩) := by
  simp only [insertKey, Entity.hasCompositeKey, Entity.keyProperty?, hkey, h, Generation.keySelect]
  cases Generation.keySql g.entity p generation g.dialect g.defaultSequence <;> rfl

/-! ## What an insertion tells -/

/-- What an insertion tells about the single key property: its name and its column, whether it is
generated, and then with which element and when. -/
structure TellsKey (g : Generator) (s : Statement) (p : Property) (key : KeyInfo) : Prop where
  recorded : s.key? = some key
  property : key.property = p.name
  column : key.column = p.column.name.text
  generated_iff : key.generated = true ↔ p.generated?.isSome = true
  selects_iff : key.generated = true ↔ SelectsKey s.body.print
  timing : ∀ generation, p.generated? = some generation → ∃ timing sql rest,
    key.timing? = some timing ∧
      s.body = .selectKey p.name p.column.name.text timing p.typeName (.text sql) ++ rest ∧
      (timing = .before ↔ Generation.resolvedStrategy generation g.dialect = .sequence) ∧
      (timing = .after ↔ Generation.resolvedStrategy generation g.dialect = .identity)

/-- Without the element an insertion tells only what it says of the key. -/
theorem not_selectsKey_of_empty {key? : Option KeyInfo} (h : g.insertStatement selective = .ok s)
    (hkey : g.insertKey = .ok (.empty, key?)) : s.key? = key? ∧ ¬ SelectsKey s.body.print := by
  obtain ⟨select, slots, hselect, hbody⟩ := of_insertStatement h
  rw [hkey] at hselect
  cases hselect
  refine ⟨rfl, ?_⟩
  rw [hbody, Template.print_append, Template.print_empty, String.empty_append]
  exact not_selectsKey_insertion slots

/-- A key that is given is told as not generated. -/
theorem tellsKey_of_given (h : g.insertStatement selective = .ok s)
    (hkey : g.entity.key = .simple p) (hgiven : p.generated? = none) :
    g.TellsKey s p ⟨p.name, p.column.name.text, false, none⟩ := by
  obtain ⟨hrecorded, hselects⟩ := not_selectsKey_of_empty h (insertKey_of_given hkey hgiven)
  exact
    { recorded := hrecorded
      property := rfl
      column := rfl
      generated_iff := by simp [hgiven]
      selects_iff := by simp [hselects]
      timing := by simp [hgiven] }

/-- A key that is generated is told with the time of its generation. -/
theorem tellsKey_of_generated {generation : KeyGeneration}
    (h : g.insertStatement selective = .ok s) (hkey : g.entity.key = .simple p)
    (hgenerated : p.generated? = some generation) :
    ∃ timing, g.TellsKey s p ⟨p.name, p.column.name.text, true, some timing⟩ := by
  obtain ⟨select, slots, hselect, hbody⟩ := of_insertStatement h
  rw [insertKey_of_generated hkey hgenerated] at hselect
  obtain ⟨⟨sql, timing⟩, hsql, heq⟩ := map_eq_ok.mp hselect
  obtain ⟨rfl, hrecorded⟩ := Prod.mk.inj heq
  exact ⟨timing,
    { recorded := hrecorded.symm
      property := rfl
      column := rfl
      generated_iff := by simp [hgenerated]
      selects_iff := by simpa [hbody] using selectsKey_print _
      timing := by
        intro generation' hgenerated'
        cases hgenerated.symm.trans hgenerated'
        exact ⟨timing, sql, _, rfl, hbody, Generation.timing_of_keySql hsql⟩ }⟩

/-- What an insertion tells about the single key property, if there is one. -/
theorem exists_tellsKey (h : g.insertStatement selective = .ok s)
    (hkey : g.entity.key = .simple p) : ∃ key, g.TellsKey s p key := by
  cases hgenerated : p.generated? with
  | none => exact ⟨_, tellsKey_of_given h hkey hgenerated⟩
  | some generation =>
    obtain ⟨timing, htells⟩ := tellsKey_of_generated h hkey hgenerated
    exact ⟨_, htells⟩

/-- A chosen strategy stops no insertion. -/
theorem fails_insertStatement_of_auto {generation : KeyGeneration}
    (hkey : g.entity.key = .simple p) (hgenerated : p.generated? = some generation)
    (hauto : generation.strategy = .auto) (selective : Bool) :
    Fails (g.insertStatement selective) ↔ g.LacksEmbedded := by
  rw [fails_insertStatement_iff, or_iff_right]
  rintro ⟨p', generation', hkey', hgenerated', hunserved⟩
  cases hkey.symm.trans hkey'
  cases hgenerated.symm.trans hgenerated'
  rw [hauto] at hunserved
  exact hunserved

/-- An insertion has metadata of a key just if the entity has a single key property, and selects a
key just if that property is generated.  The metadata have the name and the column of the property,
are flagged just if a key is selected, and then have the timing of the element that selects it:
before the insertion for a sequence and after it for an identity column.  The strategy that a
dialect chooses never stops an insertion. -/
theorem insertions_tell_key (g : Generator) (selective : Bool) :
    (∀ s, g.insertStatement selective = .ok s →
      (s.key?.isSome = true ↔ ∃ p, g.entity.key = .simple p) ∧
      (SelectsKey s.body.print ↔
        ∃ p, g.entity.key = .simple p ∧ p.generated?.isSome = true) ∧
      ∀ p, g.entity.key = .simple p → ∃ key, g.TellsKey s p key) ∧
    ∀ p generation, generation.strategy = .auto →
      (∃ select timing, Generation.keySelect g.entity p generation g.dialect g.defaultSequence =
        .ok (select, timing)) ∧
      (g.entity.key = .simple p → p.generated? = some generation →
        (Fails (g.insertStatement selective) ↔ g.LacksEmbedded)) := by
  refine ⟨fun s h => ?_, fun p generation hauto => ⟨Generation.keySelect_auto _ p _ _ hauto,
    fun hkey hgenerated => fails_insertStatement_of_auto hkey hgenerated hauto selective⟩⟩
  by_cases hsimple : ∃ p, g.entity.key = .simple p
  · obtain ⟨p, hkey⟩ := hsimple
    obtain ⟨key, htells⟩ := exists_tellsKey h hkey
    refine ⟨by simp [htells.recorded, hkey], ?_, fun p' hkey' => ?_⟩
    · rw [← htells.selects_iff, htells.generated_iff]
      simp [hkey]
    · exact exists_tellsKey h hkey'
  · have hnone : ∀ p, g.entity.key ≠ .simple p := fun p hkey => hsimple ⟨p, hkey⟩
    obtain ⟨hrecorded, hselects⟩ := not_selectsKey_of_empty h (insertKey_of_not_simple hnone)
    refine ⟨by simp [hrecorded, hnone], by simp [hselects, hnone], fun p hkey => ?_⟩
    exact absurd hkey (hnone p)

/-! ## Insertions of tickets -/

/-- The number of a ticket, generated as the database chooses. -/
def ticketNumber : Property :=
  { Property.plain .id "number" "i64" ⟨⟨"No", true⟩, .bigint⟩ with
    generated? := some ⟨.auto, none⟩ }

/-- Numbered tickets on MySQL. -/
def tickets : Generator :=
  let entity := { Entity.plain "app::Ticket" "tickets" with properties := [ticketNumber] }
  { catalog := Catalog.add .empty entity
    dialect := .mysql
    repository := ⟨"app::Tickets", "app::Ticket", false⟩
    entity
    defaultSequence := "ticket_seq" }

/-- Tickets embed nothing that is missing. -/
theorem tickets_complete : ¬ tickets.LacksEmbedded :=
  fails_slots_iff.not.mp (not_fails_iff.mpr (isOk_iff.mp (by decide)))

/-- The number is read back after the insertion. -/
theorem insertions_tell_key_tickets :
    ∃ s key, tickets.insertStatement true = .ok s ∧ s.key? = some key ∧ key.property = "number" ∧
      key.column = "No" ∧ key.timing? = some .after ∧ SelectsKey s.body.print := by
  obtain ⟨htold, hauto⟩ := insertions_tell_key tickets true
  have hmade := (hauto ticketNumber ⟨.auto, none⟩ rfl).2 rfl rfl
  obtain ⟨s, hs⟩ := not_fails_iff.mp (hmade.not.mpr tickets_complete)
  obtain ⟨key, htells⟩ := (htold s hs).2.2 ticketNumber rfl
  obtain ⟨timing, _, _, htiming, _, _, hafter⟩ := htells.timing ⟨.auto, none⟩ rfl
  rw [hafter.mpr rfl] at htiming
  exact ⟨s, key, hs, htells.recorded, htells.property, htells.column, htiming,
    htells.selects_iff.mp (htells.generated_iff.mpr rfl)⟩

end Generator

end EntityMapping
