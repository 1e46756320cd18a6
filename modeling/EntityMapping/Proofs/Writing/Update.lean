import EntityMapping.Generation.Update
import EntityMapping.Proofs.Engine.Listing
import EntityMapping.Proofs.Keys.Equalities

/-!
# Updates

What the four updates come to.  Columns outside the key are assigned their values in the
entity; a selective update leaves out those whose values are null.  The columns of the key are
compared with the key, which is the id of the call or is taken from the entity.

Main results:

- `Generator.yields_assignments`: the clause of assignments, selective or not.
- `Generator.updates_split_columns`: each column is either assigned or compared.
-/

namespace EntityMapping.Generator

variable {g : Generator} {q : Request}

/-! ## Assignments -/

/-- The slots whose values in an entity are not null. -/
def presentIn (entity : Json) (slots : List Slot) : List Slot :=
  slots.filter fun s => !(s.valueIn entity).isNull

/-- The slots that an update assigns: those outside the key, and of these a selective update
only assigns those whose values are not null. -/
def assigned (selective : Bool) (entity : Json) (slots : List Slot) : List Slot :=
  let changed := slots.filter fun s => !s.isKey
  if selective then presentIn entity changed else changed

/-- The assignment of a value in an entity to the column of its slot. -/
def assignmentSql (g : Generator) (entity : Json) (s : Slot) : Sql :=
  Sql.text (g.column s ++ "=") ++ [.bound (s.valueIn entity) (some s.column.type)]

/-- If all values are present, none is left out. -/
theorem presentIn_of_present {entity : Json} {slots : List Slot}
    (h : ∀ s ∈ slots, (s.valueIn entity).isNull = false) : presentIn entity slots = slots :=
  List.filter_eq_self.mpr fun s hs => by rw [h s hs]; rfl

/-- An assignment gives its column, a sign and the value in the entity. -/
theorem gives_assignment {scope : Scope} (h : scope.Sees q) (s : Slot) :
    (g.assignment s).Gives scope (g.assignmentSql (q.valueOf .entity) s) := by
  have hvalue := Template.gives_value (s := scope) (Parameter.entity.member s.path)
    (some s.column.type)
  rw [h.value_member .entity s.path] at hvalue
  exact (Template.gives_text _).append hvalue

/-- The clause of assignments lists them between commas, selective or not. -/
theorem yields_assignments (selective : Bool) (slots : List Slot) :
    (Template.setClause (g.assignments selective (slots.filter fun s => !s.isKey))).Yields q
      (Sql.listed "set " "" ((assigned selective (q.valueOf .entity) slots).map
        (g.assignmentSql (q.valueOf .entity)))) := by
  refine Template.yields_of_gives fun scope hs => ?_
  let changed := slots.filter fun s => !s.isKey
  -- Joined assignments end in a value, so there is no comma to take off; guarded ones end in one.
  cases selective with
  | false =>
    have hjoined : (Template.join "," (changed.map g.assignment)).Gives scope _ :=
      Template.Gives.join fun s _ => gives_assignment hs s
    have hends : ∀ sql ∈ changed.map (g.assignmentSql (q.valueOf .entity)), sql.EndsInValue := by
      intro sql hsql
      obtain ⟨s, _, rfl⟩ := List.mem_map.mp hsql
      exact Sql.endsInValue_bound _ _ _
    have hclause := hjoined.setClause
    rw [Sql.setOf_join hends] at hclause
    exact hclause
  | true =>
    have hterminated : ∀ s ∈ changed, (g.assignment s ++ .text ",").Gives scope
        (g.assignmentSql (q.valueOf .entity) s ++ Sql.text ",") :=
      fun s _ => (gives_assignment hs s).append (Template.gives_text ",")
    have hguarded :=
      Template.Gives.concatPresent (fun s => Parameter.entity.member s.path) hterminated
    have hpresent : (changed.filter fun s =>
        !(scope.value (Parameter.entity.member s.path)).isNull) =
          presentIn (q.valueOf .entity) changed := by
      simp only [hs.value_member, presentIn, Slot.valueIn]
    have hclause := hguarded.setClause
    rw [hpresent, ← List.flatMap_map (f := g.assignmentSql (q.valueOf .entity))
      (g := fun sql => sql ++ Sql.text ",")] at hclause
    exact (Sql.setOf_terminated _).symm ▸ hclause

/-! ## Statements -/

/-- The value with which an update compares the column of a part of the key: the part of the
id, or the value in the entity. -/
def keyValue (g : Generator) (byId : Bool) (q : Request) (part : Slot) : Json :=
  if byId then g.partOf (q.valueOf .id) part else part.valueIn (q.valueOf .entity)

/-- What an update comes to: the assignments, and the comparisons with the key. -/
def updateSql (g : Generator) (slots : List Slot) (selective byId : Bool) (q : Request) : Sql :=
  Sql.text ("update " ++ g.table ++ " ") ++
    Sql.listed "set " "" ((assigned selective (q.valueOf .entity) slots).map
      (g.assignmentSql (q.valueOf .entity))) ++
    Sql.text " where " ++ g.matchSql (g.keyValue byId q)

/-- An update evaluates to its SQL. -/
theorem evaluate_update {slots : List Slot} {selective byId : Bool} {update : Statement}
    (hslots : g.slots = .ok slots) (h : g.updateStatement selective byId = .ok update) :
    update.body.evaluate q.json = g.updateSql slots selective byId q := by
  obtain ⟨condition, hcondition, h⟩ := bind_eq_ok.mp h
  obtain ⟨slots', hslots', h⟩ := bind_eq_ok.mp h
  rw [hslots] at hslots'
  cases hslots'
  cases h
  have hmatch : condition.Yields q (g.matchSql (g.keyValue byId q)) := by
    cases byId with
    | true => exact yields_keyMatch_id hcondition
    | false => exact yields_keyMatch_entity hcondition
  exact ((((Template.yields_text _).append (yields_assignments selective slots)).append
    (Template.yields_text _)).append hmatch).evaluate

/-- Each column is either assigned or compared with the key, in all four updates.  Updates by
id and by entity differ in the values of the key only, and a selective update in leaving out
null values; without any it is the plain update. -/
theorem updates_split_columns (hkey : g.entity.key ≠ .none) (hembedded : ¬ g.LacksEmbedded) :
    ∃ slots, g.slots = .ok slots ∧
      slots.Perm (g.keyParts ++ slots.filter fun s => !s.isKey) ∧
      (∀ selective byId, ∃ update, g.updateStatement selective byId = .ok update ∧
        ∀ q : Request, update.body.evaluate q.json = g.updateSql slots selective byId q) ∧
      ∀ q : Request,
        (∀ s ∈ slots, s.isKey = false → (s.valueIn (q.valueOf .entity)).isNull = false) →
          ∀ byId selective plain, g.updateStatement true byId = .ok selective →
            g.updateStatement false byId = .ok plain →
              selective.body.evaluate q.json = plain.body.evaluate q.json := by
  obtain ⟨slots, hslots⟩ := not_fails_iff.mp (fails_slots_iff.not.mpr hembedded)
  refine ⟨slots, hslots, ?_, fun selective byId => ?_, ?_⟩
  · rw [keyParts_of_slots hslots]
    exact (List.filter_append_perm _ slots).symm
  · obtain ⟨update, hupdate⟩ :=
      not_fails_iff.mp ((fails_updateStatement_iff hkey selective byId).not.mpr hembedded)
    exact ⟨update, hupdate, fun q => evaluate_update hslots hupdate⟩
  · intro q hpresent byId selective plain hselective hplain
    have hall : presentIn (q.valueOf .entity) (slots.filter fun s => !s.isKey) =
        slots.filter fun s => !s.isKey := by
      refine presentIn_of_present fun s hs => ?_
      obtain ⟨hmem, hnot⟩ := List.mem_filter.mp hs
      exact hpresent s hmem (by simpa using hnot)
    have hassigned : assigned true (q.valueOf .entity) slots =
        assigned false (q.valueOf .entity) slots := hall
    rw [evaluate_update hslots hselective, evaluate_update hslots hplain, updateSql, updateSql,
      hassigned]

/-! ## Updates of customers -/

/-- An address. -/
def postalAddress : Entity :=
  { Entity.plain "app::Address" "" with
    properties :=
      [Property.plain .basic "street" "String" ⟨.plain "street", .varchar⟩,
        Property.plain .basic "city" "String" ⟨.plain "city", .varchar⟩]
    embeddable := true }

/-- Customers with a key from a sequence, a name and an address. -/
def customers : Generator :=
  let id := { Property.plain .id "id" "i64" ⟨.plain "id", .bigint⟩ with
    generated? := some ⟨.sequence, none⟩ }
  let entity : Entity :=
    { Entity.plain "app::Customer" "customers" with
      properties :=
        [id, Property.plain .basic "name" "String" ⟨.plain "name", .varchar⟩,
          Property.plain .embedded "address" "app::Address" ⟨.plain "address", .varchar⟩] }
  { catalog := (Catalog.add .empty postalAddress).add entity
    dialect := .postgres
    repository := ⟨"app::Customers", "app::Customer", false⟩
    entity
    defaultSequence := "customer_seq" }

/-- A customer of whom the street is not known. -/
def ann : Json :=
  .object [("id", .int 1), ("name", .string "ann"),
    ("address", .object [("city", .string "Rome")])]

/-- The columns of a customer: two of its own and two of its address. -/
theorem customers_slots : customers.slots = .ok
    [⟨"id", none, ⟨.plain "id", .bigint⟩, true⟩,
      ⟨"name", none, ⟨.plain "name", .varchar⟩, false⟩,
      ⟨"street", some "address", ⟨.plain "street", .varchar⟩, false⟩,
      ⟨"city", some "address", ⟨.plain "city", .varchar⟩, false⟩] := by
  decide

/-- A customer embeds nothing that is missing. -/
theorem customers_complete : ¬ customers.LacksEmbedded :=
  fails_slots_iff.not.mp (not_fails_iff.mpr ⟨_, customers_slots⟩)

/-- A selective update by id leaves the street alone. -/
theorem updates_split_columns_customers : ∃ update,
    customers.updateStatement true true = .ok update ∧
    update.body.evaluate ((Request.empty.apply (.entity ann)).apply (.id (.int 7))).json =
      Sql.text "update customers set name=" ++ [.bound (.string "ann") (some .varchar)] ++
        Sql.text ",city=" ++ [.bound (.string "Rome") (some .varchar)] ++
        Sql.text " where id = " ++ [.bound (.int 7) (some .bigint)] := by
  obtain ⟨slots, hslots, _, hupdates, _⟩ :=
    updates_split_columns (g := customers) (by decide) customers_complete
  obtain ⟨update, hupdate, htext⟩ := hupdates true true
  rw [customers_slots] at hslots
  cases hslots
  exact ⟨update, hupdate, htext _⟩

end EntityMapping.Generator
