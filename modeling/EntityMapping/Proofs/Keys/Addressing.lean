import EntityMapping.Generation.Update
import EntityMapping.Proofs.Keys.Rows

/-!
# Addressing rows by key

All statements of an entity address a row by the same equalities, wherever they find the key,
and the deletion of several rows selects those that the deletion of one row selects for one of
the keys.

Main results:

- `Generator.keys_address_rows`: conditions on keys agree, and so do the deletions.
-/

namespace EntityMapping.Generator

variable {g : Generator}

/-- A deletion of the rows that meet a condition. -/
def deletionSql (g : Generator) (condition : Sql) : Sql :=
  Sql.text ("delete from " ++ g.table ++ " where ") ++ condition

/-- The deletion by a key compares the columns of the key with its parts. -/
theorem gives_deleteById {delete : Statement} (h : g.WellKeyed)
    (hdelete : g.deleteByIdStatement = .ok delete) {key : Json} (hfits : g.FitsKey key)
    {s : Scope} (hcarries : s.Carries key (g.keyParts.map (·.member))) :
    delete.body.Gives s (g.deletionSql (g.matchSql (g.partOf key))) := by
  obtain ⟨condition, hcondition, hdelete⟩ := bind_eq_ok.mp hdelete
  cases hdelete
  exact (Template.gives_text _).append (gives_keyMatch_parameter h hcondition hcarries hfits)

/-- The deletion by several keys runs the condition on them. -/
theorem evaluate_deleteByIds {delete : Statement} {q : Request} {keys : List Json}
    (hdelete : g.deleteByIdsStatement = .ok delete) (hkeys : q.ids? = some keys) :
    delete.body.evaluate q.json = g.deletionSql (g.idsSql keys) := by
  obtain ⟨condition, hcondition, hdelete⟩ := bind_eq_ok.mp hdelete
  cases hdelete
  exact ((Template.yields_text _).append (yields_keysMatch hcondition hkeys)).evaluate

/-- Conditions on the key of an entity are the same equalities, one for each column of the key,
whether the key is the whole parameter, the id of the call or inside the entity.  The deletion
by several keys selects the rows that the deletion by one key selects for some of them. -/
theorem keys_address_rows (h : g.WellKeyed) :
    ∃ slots whole byId byEntity one many, g.slots = .ok slots ∧
      g.keyParts = slots.filter (·.isKey) ∧ g.keyParts ≠ [] ∧
      g.keyMatch .parameter = .ok whole ∧ g.keyMatch .id = .ok byId ∧
      g.keyMatch .entity = .ok byEntity ∧
      (∀ entity : Json,
        (g.FitsKey (g.keyOf entity) → ∀ s : Scope,
          s.Carries (g.keyOf entity) (g.keyParts.map (·.member)) →
            whole.Gives s (g.matchSql fun s => s.valueIn entity)) ∧
        (∀ q : Request, q.id? = some (g.keyOf entity) →
          byId.evaluate q.json = g.matchSql fun s => s.valueIn entity) ∧
        ∀ q : Request, q.entity? = some entity →
          byEntity.evaluate q.json = g.matchSql fun s => s.valueIn entity) ∧
      g.deleteByIdStatement = .ok one ∧ g.deleteByIdsStatement = .ok many ∧
      (∀ key, g.FitsKey key → ∀ s : Scope, s.Carries key (g.keyParts.map (·.member)) →
        one.body.Gives s (g.deletionSql (g.matchSql (g.partOf key)))) ∧
      (∀ keys, ∀ q : Request, q.ids? = some keys →
        many.body.evaluate q.json = g.deletionSql (g.idsSql keys)) ∧
      ((∀ s ∈ g.keyParts, IsOperand (g.column s)) → ∀ row : TableRow,
        (∀ key, row.meets (g.matchSql (g.partOf key)) ↔ g.HasKeyValue row key) ∧
        ∀ keys, keys ≠ [] → (row.meets (g.idsSql keys) ↔
          ∃ key ∈ keys, row.meets (g.matchSql (g.partOf key)))) := by
  obtain ⟨slots, hslots⟩ := not_fails_iff.mp (fails_slots_iff.not.mpr h.embedded)
  have hmatch : ∀ source, ∃ t, g.keyMatch source = .ok t := fun source =>
    not_fails_iff.mp ((fails_keyMatch_iff h.keyed source).not.mpr h.embedded)
  obtain ⟨whole, hwhole⟩ := hmatch .parameter
  obtain ⟨byId, hbyId⟩ := hmatch .id
  obtain ⟨byEntity, hbyEntity⟩ := hmatch .entity
  obtain ⟨one, hone⟩ :=
    not_fails_iff.mp ((fails_deleteByIdStatement_iff h.keyed).not.mpr h.embedded)
  obtain ⟨many, hmany⟩ := not_fails_iff.mp
    ((fails_deleteByIdsStatement_iff h.keyed).not.mpr fun hfault => h.embedded hfault.2)
  have hparts : ∀ entity, g.matchSql (g.partOf (g.keyOf entity)) =
      g.matchSql fun s => s.valueIn entity :=
    fun entity => matchSql_congr fun part hpart => h.partOf_keyOf entity hpart
  refine ⟨slots, whole, byId, byEntity, one, many, hslots, keyParts_of_slots hslots,
    h.keyParts_ne_nil, hwhole, hbyId, hbyEntity, fun entity => ⟨?_, ?_, ?_⟩, hone, hmany,
    fun key hfits s hcarries => gives_deleteById h hone hfits hcarries,
    fun keys q hkeys => evaluate_deleteByIds hmany hkeys, fun hcolumns row => ⟨?_, ?_⟩⟩
  · intro hfits s hcarries
    rw [← hparts]
    exact gives_keyMatch_parameter h hwhole hcarries hfits
  · intro q hid
    have hvalue : q.valueOf .id = g.keyOf entity := by simp [Request.valueOf, hid]
    rw [← hparts, ← hvalue]
    exact (yields_keyMatch_id hbyId).evaluate
  · intro q hentity
    have hvalue : q.valueOf .entity = entity := by simp [Request.valueOf, hentity]
    rw [← hvalue]
    exact (yields_keyMatch_entity hbyEntity).evaluate
  · exact fun key => meets_matchSql hcolumns h.keyParts_ne_nil key
  · intro keys hne
    simp only [meets_idsSql hcolumns h hne, meets_matchSql hcolumns h.keyParts_ne_nil]

/-! ## Seats in halls -/

/-- The key of a seat: its hall and its number. -/
def seatKey : Entity :=
  let part (name : String) := Property.plain .basic name "i64" ⟨.plain name, .bigint⟩
  { Entity.plain "app::SeatKey" "" with
    properties := [part "hall", part "number"]
    embeddable := true }

/-- The property that holds the key of a seat. -/
def seatKeyProperty : Property :=
  Property.plain .embeddedId "key" "app::SeatKey" ⟨.plain "key", .varchar⟩

/-- Seats with an embedded key. -/
def seats : Generator :=
  let entity : Entity :=
    { Entity.plain "app::Seat" "seats" with
      properties :=
        [seatKeyProperty, Property.plain .basic "label" "String" ⟨.plain "label", .varchar⟩] }
  { catalog := (Catalog.add .empty seatKey).add entity
    dialect := .postgres
    repository := ⟨"app::Seats", "app::Seat", false⟩
    entity
    defaultSequence := "seat_seq" }

/-- A hall and a number. -/
def seatAt (hall number : Int) : Json := .object [("hall", .int hall), ("number", .int number)]

/-- The key of a seat has two parts. -/
theorem seats_keyParts : seats.keyParts =
    [⟨"hall", some "key", ⟨.plain "hall", .bigint⟩, true⟩,
      ⟨"number", some "key", ⟨.plain "number", .bigint⟩, true⟩] := by
  decide

/-- The key of a seat is as it should be. -/
theorem seats_wellKeyed : seats.WellKeyed where
  keyed := by decide
  embedded := by
    have hslots : seats.slots.isOk = true := by decide
    exact fails_slots_iff.not.mp (not_fails_iff.mpr (isOk_iff.mp hslots))
  alone p hkey := by
    have hproperty : seats.entity.key = .embedded seatKeyProperty := rfl
    rw [hproperty] at hkey
    cases hkey
    rfl
  members p e hkey hfound := by
    have hproperty : seats.entity.key = .embedded seatKeyProperty := rfl
    rw [hproperty] at hkey
    cases hkey
    have hheld : seats.catalog.get? seatKeyProperty.typeName = some seatKey := by decide
    rw [hheld] at hfound
    cases hfound
    exact ⟨by decide, by decide⟩
  plain := by decide

/-- The condition that a seat is in a hall and has a number. -/
def seatCondition (hall number : Int) : Sql :=
  Sql.text "hall = " ++ [.bound (.int hall) (some .bigint)] ++ Sql.text " and number = " ++
    [.bound (.int number) (some .bigint)]

/-- The conditions that a seat is one of two. -/
def seatsCondition : Sql :=
  Sql.text "(hall = " ++ [.bound (.int 1) none] ++ Sql.text " and number = " ++
    [.bound (.int 2) none] ++ Sql.text ") or (hall = " ++ [.bound (.int 3) none] ++
    Sql.text " and number = " ++ [.bound (.int 4) none] ++ Sql.text ")"

/-- Two seats are deleted at once as they are one by one. -/
theorem keys_address_rows_seats : ∃ one many, seats.deleteByIdStatement = .ok one ∧
    seats.deleteByIdsStatement = .ok many ∧
    one.body.evaluate (seatAt 1 2) = Sql.text "delete from seats where " ++ seatCondition 1 2 ∧
    many.body.evaluate (Request.empty.apply (.ids [seatAt 1 2, seatAt 3 4])).json =
      Sql.text "delete from seats where " ++ seatsCondition ∧
    ∀ row : TableRow, row.meets seatsCondition ↔
      row.meets (seatCondition 1 2) ∨ row.meets (seatCondition 3 4) := by
  obtain ⟨_, _, _, _, one, many, _, _, _, _, _, _, _, hone, hmany, hdelete, hdeletes, hrows⟩ :=
    keys_address_rows seats_wellKeyed
  have hcarries : (Scope.of (seatAt 1 2)).Carries (seatAt 1 2) (seats.keyParts.map (·.member)) := by
    rw [seats_keyParts]
    exact Scope.Carries.of (by decide)
  have hcolumns : ∀ s ∈ seats.keyParts, IsOperand (seats.column s) := by
    rw [seats_keyParts]
    intro s hs
    rcases List.mem_pair.mp hs with rfl | rfl
    · exact ⟨_, rfl, .token _ rfl⟩
    · exact ⟨_, rfl, .token _ rfl⟩
  have hmatch : ∀ hall number, seats.matchSql (seats.partOf (seatAt hall number)) =
      seatCondition hall number := by
    intro hall number
    rw [matchSql, seats_keyParts]
    rfl
  have hlist : seats.idsSql [seatAt 1 2, seatAt 3 4] = seatsCondition := by
    have hkey : ∀ p, seats.entity.key ≠ .simple p := fun p hp => by cases hp
    rw [idsSql_of_parts hkey]
    rfl
  refine ⟨one, many, hone, hmany, ?_, ?_, fun row => ?_⟩
  · have htext := hdelete (seatAt 1 2) trivial _ hcarries
    rw [hmatch] at htext
    exact congrArg Prod.fst htext
  · have htext := hdeletes [seatAt 1 2, seatAt 3 4]
      (Request.empty.apply (.ids [seatAt 1 2, seatAt 3 4])) rfl
    rw [hlist] at htext
    exact htext
  · have hall := (hrows hcolumns row).2 [seatAt 1 2, seatAt 3 4] (List.cons_ne_nil _ _)
    simpa [hmatch, hlist] using hall

end EntityMapping.Generator
