import EntityMapping.Proofs.Keys.Addressing
import EntityMapping.Proofs.Run.Effect
import EntityMapping.Proofs.Search.Find
import EntityMapping.Proofs.Writing.Insert

/-!
# Degenerate statements

A statement is degenerate if it has nothing to list even though every value is there: an
insertion without columns, an update without assignments, or a restriction by a key without
comparisons.  Which slots a statement lists depends on how the flattened columns divide into
those of the key and the others.  An entity may have columns on one side only, and an embedded
property has none at all if its type has no properties.

Main results:

- `Generator.lists_of_make`: what each statement lists.
- `Catalog.filter_slotsOf_eq_nil_iff`: which properties have columns.
- `Generator.run_degenerate_iff`: when a run registers no degenerate statement.
- `Generator.run_degenerate_memberships`: an entity whose columns are all part of the key has
  an update that assigns nothing.
-/

namespace EntityMapping

namespace StatementName

/-- The insertions. -/
def inserting : List StatementName := [insertSelective, insert]

/-- The updates. -/
def updating : List StatementName := [updateSelectiveById, updateSelective, updateById, update]

/-- The statements that a key restricts, a search only if ids are given. -/
def restricted : List StatementName := keyed ++ [findByPager, find]

end StatementName

namespace Generator

variable {g : Generator} {s : Statement}

/-! ## Listed slots -/

/-- The slots of the entity, none if its columns cannot be flattened. -/
def parts (g : Generator) : List Slot :=
  match g.slots with
  | .ok slots => slots
  | .error _ => []

/-- The slots outside the key. -/
def changedParts (g : Generator) : List Slot := g.parts.filter fun s => !s.isKey

/-- The slots that a list of ids is compared with. -/
def listedParts (g : Generator) : List Slot :=
  match g.entity.key with
  | .simple p => [ownPart p]
  | _ => g.keyParts

/-- The slots that a statement compares with a key or with ids. -/
def comparedParts (g : Generator) (name : StatementName) : List Slot :=
  if name ∈ [.deleteByIds, .findByPager, .find] then g.listedParts else g.keyParts

/-- The parts are the columns that flattening gives. -/
theorem parts_of_slots {slots : List Slot} (h : g.slots = .ok slots) : g.parts = slots := by
  rw [parts, h]

/-- The statement lists all columns and their values in the inserted entity. -/
def ListsInsertion (g : Generator) (s : Statement) (selective : Bool) : Prop :=
  ∀ (entity : Json) (scope : Scope), entity.IsRecord →
    scope.Carries entity (g.parts.map Slot.path) →
    (∀ part ∈ g.parts, (part.valueIn entity).isNull = false) →
    s.body.Gives scope
      (if selective then
        Sql.text ("insert into " ++ g.table ++ " ") ++
          Sql.listed "(" ")" (g.columnsSql g.parts) ++ Sql.text " " ++
          Sql.listed "values(" ")" (valuesSql entity g.parts)
      else
        Sql.text ("insert into " ++ g.table ++ " (") ++ Sql.join "," (g.columnsSql g.parts) ++
          Sql.text ") values (" ++ Sql.join "," (valuesSql entity g.parts) ++ Sql.text ")")

/-- The statement assigns all columns outside the key. -/
def ListsUpdate (g : Generator) (s : Statement) (byId : Bool) : Prop :=
  ∀ q : Request, (∀ part ∈ g.changedParts, (part.valueIn (q.valueOf .entity)).isNull = false) →
    s.body.evaluate q.json = Sql.text ("update " ++ g.table ++ " ") ++
      Sql.listed "set " "" (g.changedParts.map (g.assignmentSql (q.valueOf .entity))) ++
      Sql.text " where " ++ g.matchSql (g.keyValue byId q)

/-- The statement compares all columns of the key with the members of its parameter. -/
def ListsKey (g : Generator) (s : Statement) (front : String) : Prop :=
  ∀ scope : Scope, s.body.Gives scope (Sql.text (front ++ g.table ++ " where ") ++
    g.matchSql fun part => scope.value part.member)

/-- The search restricts its rows to the ids that are given. -/
def ListsIds (g : Generator) (s : Statement) (paged : Bool) : Prop :=
  g.entity.key ≠ .none → ∀ (q : Request) (ids : List Json), q.ids? = some ids → ids ≠ [] →
    let rows := Sql.text ("select * from " ++ g.table ++ " ") ++
      Sql.whereAll (g.idsSql ids :: g.activeFilters (q.valueOf .condition)) ++
      Sql.text " " ++ g.orderingSql g.parts q.sorting?
    s.body.evaluate q.json =
      if paged then g.dialect.windowFront ++ rows ++
        g.dialect.windowBack (q.valueOf .offset) (q.valueOf .pageSize)
      else rows

/-- What the statement of a name lists if every value is there. -/
def Lists (g : Generator) (s : Statement) : StatementName → Prop
  | .insertSelective => g.ListsInsertion s true
  | .insert => g.ListsInsertion s false
  | .updateSelectiveById => g.ListsUpdate s true
  | .updateSelective => g.ListsUpdate s false
  | .updateById => g.ListsUpdate s true
  | .update => g.ListsUpdate s false
  | .deleteById => g.ListsKey s "delete from "
  | .getById => g.ListsKey s "select * from "
  | .deleteByIds => ∀ (q : Request) (ids : List Json), q.ids? = some ids →
      s.body.evaluate q.json = g.deletionSql (g.idsSql ids)
  | .findByPager => g.ListsIds s true
  | .find => g.ListsIds s false
  | _ => True

/-- An insertion lists the columns of the entity. -/
theorem listsInsertion_of_insertStatement {selective : Bool}
    (h : g.insertStatement selective = .ok s) : g.ListsInsertion s selective := by
  obtain ⟨⟨select, key?⟩, hselect, h⟩ := bind_eq_ok.mp h
  obtain ⟨slots, hslots, h⟩ := bind_eq_ok.mp h
  cases h
  intro entity scope hentity hcarries hpresent
  rw [parts_of_slots hslots] at *
  have hvalue : ∀ part ∈ slots, scope.value part.path = part.valueIn entity :=
    fun part hpart => hcarries.value hentity (List.mem_map_of_mem hpart)
  cases selective with
  | true =>
    have hlist := gives_insertPresent (g := g) hvalue
    rw [presentIn_of_present hpresent] at hlist
    exact (gives_insertKey hselect).append hlist
  | false => exact (gives_insertKey hselect).append (gives_insertAll hvalue)

/-- An update lists the columns outside the key. -/
theorem listsUpdate_of_updateStatement {selective byId : Bool}
    (h : g.updateStatement selective byId = .ok s) : g.ListsUpdate s byId := by
  obtain ⟨slots, hslots, _⟩ := bind_eq_ok.mp (bind_eq_ok.mp h).choose_spec.2
  intro q hpresent
  rw [changedParts, parts_of_slots hslots] at *
  have hassigned : assigned selective (q.valueOf .entity) slots =
      slots.filter fun s => !s.isKey := by
    cases selective with
    | true => exact presentIn_of_present hpresent
    | false => rfl
  rw [evaluate_update hslots h, updateSql, hassigned]

/-- A search compares ids with the parts of the key. -/
theorem listsIds_of_findStatement {paged : Bool} (h : g.findStatement paged = .ok s) :
    g.ListsIds s paged := by
  obtain ⟨query, hquery, h⟩ := bind_eq_ok.mp h
  cases h
  intro hkey q ids hids hne
  obtain ⟨slots, hslots⟩ := exists_slots_of_findQuery hquery
  have hyields := yields_findQuery hslots hquery (q := q) (by simpa [hids] using hne)
  have hfilters : g.keyFilters q.ids? = [g.idsSql ids] := by
    rw [keyFilters_of_key hkey, hids]
    rfl
  rw [hfilters] at hyields
  rw [parts_of_slots hslots]
  cases paged with
  | true => exact (hyields.window g.dialect).evaluate
  | false => exact hyields.evaluate

/-- A match by the members of the key gives their equalities. -/
theorem gives_keyMatch_member {t : Template} (h : g.keyMatch .parameter = .ok t) (scope : Scope) :
    t.Gives scope (g.matchSql fun part => scope.value part.member) :=
  gives_keyMatch h fun _ _ => rfl

/-- What is made for a name lists what it says. -/
theorem lists_of_make {companion : String} {name : StatementName}
    (h : g.make companion name = .ok s) : g.Lists s name := by
  cases name with
  | insertSelective => exact listsInsertion_of_insertStatement h
  | insert => exact listsInsertion_of_insertStatement h
  | updateSelectiveById => exact listsUpdate_of_updateStatement h
  | updateSelective => exact listsUpdate_of_updateStatement h
  | updateById => exact listsUpdate_of_updateStatement h
  | update => exact listsUpdate_of_updateStatement h
  | findByPager => exact listsIds_of_findStatement h
  | find => exact listsIds_of_findStatement h
  | deleteByIds => exact fun q ids hids => evaluate_deleteByIds h hids
  | deleteById =>
    obtain ⟨condition, hcondition, h⟩ := bind_eq_ok.mp h
    cases h
    exact fun scope => (Template.gives_text _).append (gives_keyMatch_member hcondition scope)
  | getById =>
    obtain ⟨condition, hcondition, h⟩ := bind_eq_ok.mp h
    cases h
    exact fun scope => (Template.gives_text _).append (gives_keyMatch_member hcondition scope)
  | _ => trivial

end Generator

/-! ## Properties with columns -/

namespace Catalog

variable {c : Catalog} {p : Property} {ps : List Property} {slots : List Slot}

/-- The property has columns: an embedded one those of the properties of its type. -/
def HasColumns (c : Catalog) (p : Property) : Prop :=
  p.isEmbedded = true → ∃ e, c.get? p.typeName = some e ∧ e.properties ≠ []

/-- A property is flattened to nothing exactly if it has no columns. -/
theorem slotsOfProperty_eq_nil_iff (h : c.slotsOfProperty p = .ok slots) :
    slots = [] ↔ ¬ c.HasColumns p := by
  unfold slotsOfProperty at h
  unfold HasColumns
  split at h
  · next hembedded =>
    obtain ⟨e, he, rfl⟩ := map_eq_ok.mp h
    simp [hembedded, required_eq_ok_iff.mp he]
  · next hplain =>
    cases h
    simp [hplain]

/-- Of the properties on one side of the key none has columns exactly if there are no slots on
that side. -/
theorem filter_slotsOf_eq_nil_iff (keep : Bool → Bool) (h : c.slotsOf ps = .ok slots) :
    slots.filter (fun s => keep s.isKey) = [] ↔
      ∀ p ∈ ps, keep p.isKey = true → ¬ c.HasColumns p := by
  induction ps generalizing slots with
  | nil =>
    cases h
    simp
  | cons p rest ih =>
    obtain ⟨first, hfirst, h⟩ := bind_eq_ok.mp h
    obtain ⟨others, hothers, h⟩ := bind_eq_ok.mp h
    cases h
    have hsame : first.filter (fun s => keep s.isKey) = if keep p.isKey then first else [] := by
      have hsides : ∀ s ∈ first, s.isKey = p.isKey := fun s hs => isKey_of_mem_slots hfirst hs
      split
      · next hkeep => exact List.filter_eq_self.mpr fun s hs => by rw [hsides s hs, hkeep]
      · next hdrop => exact List.filter_eq_nil_iff.mpr fun s hs => by rwa [hsides s hs]
    rw [List.filter_append, List.append_eq_nil_iff, hsame, ih hothers, List.forall_mem_cons]
    refine and_congr_left fun _ => ?_
    split
    · next hkeep => simp [hkeep, slotsOfProperty_eq_nil_iff hfirst]
    · next hdrop => simp [hdrop]

end Catalog

namespace Generator

variable {g : Generator} {r after : Registry} {o : Outcome} {name : StatementName}

/-- An entity has no columns exactly if none of its properties has. -/
theorem parts_eq_nil_iff {slots : List Slot} (hslots : g.slots = .ok slots) :
    g.parts = [] ↔ ∀ p ∈ g.entity.properties, ¬ g.catalog.HasColumns p := by
  have hall := Catalog.filter_slotsOf_eq_nil_iff (fun _ => true) hslots
  rw [parts_of_slots hslots]
  simpa using hall

/-- There is nothing to change exactly if no property outside the key has columns. -/
theorem changedParts_eq_nil_iff {slots : List Slot} (hslots : g.slots = .ok slots) :
    g.changedParts = [] ↔
      ∀ p ∈ g.entity.properties, p.isKey = false → ¬ g.catalog.HasColumns p := by
  have hchanged := Catalog.filter_slotsOf_eq_nil_iff not hslots
  rw [changedParts, parts_of_slots hslots]
  simpa only [Bool.not_eq_true'] using hchanged

/-- The key has no parts exactly if no key property has columns. -/
theorem keyParts_eq_nil_iff {slots : List Slot} (hslots : g.slots = .ok slots) :
    g.keyParts = [] ↔
      ∀ p ∈ g.entity.properties, p.isKey = true → ¬ g.catalog.HasColumns p := by
  rw [keyParts_of_slots hslots]
  exact Catalog.filter_slotsOf_eq_nil_iff id hslots

/-- A simple key is a key property with a column. -/
theorem hasColumns_of_simple {p : Property} (hkey : g.entity.key = .simple p) :
    p ∈ g.entity.properties ∧ p.isKey = true ∧ g.catalog.HasColumns p := by
  have hid : p ∈ g.entity.ids := by
    rw [((Entity.key_simple_iff _ _).mp hkey).2]
    exact List.mem_singleton_self p
  refine ⟨(Entity.mem_ids_iff.mp hid).1, Entity.isKey_of_mem_ids hid, fun hembedded => ?_⟩
  rw [Entity.isEmbedded_of_mem_ids hid] at hembedded
  cases hembedded

/-- A list of ids is compared with nothing exactly if no key property has columns. -/
theorem listedParts_eq_nil_iff {slots : List Slot} (hslots : g.slots = .ok slots) :
    g.listedParts = [] ↔
      ∀ p ∈ g.entity.properties, p.isKey = true → ¬ g.catalog.HasColumns p := by
  unfold listedParts
  split
  · next p hkey =>
    obtain ⟨hmem, hisKey, hcolumns⟩ := hasColumns_of_simple hkey
    exact iff_of_false (List.cons_ne_nil _ _) fun hnone => hnone p hmem hisKey hcolumns
  · exact keyParts_eq_nil_iff hslots

/-! ## Runs -/

/-- The statement inserts or assigns no column. -/
def WritesNothing (g : Generator) (name : StatementName) : Prop :=
  name ∈ StatementName.inserting ∧ g.parts = [] ∨
    name ∈ StatementName.updating ∧ g.changedParts = []

/-- The statement is restricted by a key and compares no column with it. -/
def ComparesNothing (g : Generator) (name : StatementName) : Prop :=
  name ∈ StatementName.restricted ∧ g.entity.key ≠ .none ∧ g.comparedParts name = []

/-- The statement has nothing to list although every value is there. -/
def Degenerate (g : Generator) (s : Statement) : Prop :=
  ∃ name : StatementName, s.id = name.id ∧ (g.WritesNothing name ∨ g.ComparesNothing name)

/-- A statement that needs a key is generated only if there is one. -/
theorem key_ne_none_of_generates (h : g.Generates r name) (hkeyed : name ∈ StatementName.keyed) :
    g.entity.key ≠ .none :=
  (Entity.keyType?_isSome _).mp (h.2.1 hkeyed)

/-- The statements with lists read the flattened columns, except the deletion by simple keys. -/
theorem mem_flattening {e : Entity}
    (hname : name ∈ StatementName.inserting ++ StatementName.restricted)
    (hkey : name ∈ StatementName.keyed → e.key ≠ .none)
    (hids : name = .deleteByIds → ∀ p, e.key ≠ .simple p) : name ∈ e.flattening := by
  have hunkeyed : ∀ name ∈ StatementName.inserting ++ StatementName.restricted,
      name ∉ StatementName.keyed → name ∈ [.resultMap, .baseColumnList, .insert,
        .insertSelective, .find, .findByPager] := by
    decide
  have hkeyed : ∀ name ∈ StatementName.keyed, name ∈ [.updateSelectiveById, .updateSelective,
      .updateById, .update, .deleteById, .getById] ∨ name = .deleteByIds := by
    decide
  rw [Entity.mem_flattening_iff]
  by_cases hneeds : name ∈ StatementName.keyed
  · exact .inr ⟨hkey hneeds, (hkeyed name hneeds).imp_right fun hname => ⟨hname, hids hname⟩⟩
  · exact .inl (hunkeyed name hname hneeds)

/-- The columns were flattened if a run made a statement that reads them. -/
theorem exists_slots_of_generates (hrun : g.run r = .ok (o, after)) (h : g.Generates r name)
    (hname : name ∈ StatementName.inserting ++ StatementName.restricted)
    (hids : name = .deleteByIds → ∀ p, g.entity.key ≠ .simple p) :
    ∃ slots, g.slots = .ok slots := by
  obtain ⟨s, _, _, companion, hmake⟩ := exists_made_of_generates hrun h
  have hkey := fun hkeyed => key_ne_none_of_generates h hkeyed
  refine not_fails_iff.mp (fails_slots_iff.not.mpr fun hlacks => ?_)
  have hstopped := (fails_make_iff hkey companion).mpr
    (.inl ⟨mem_flattening hname hkey hids, hlacks⟩)
  exact not_fails_iff.mpr ⟨s, hmake⟩ hstopped

/-- An insertion or an update that is made lists no column exactly if no property that it
writes has columns. -/
theorem writesNothing_iff (hrun : g.run r = .ok (o, after)) (h : g.Generates r name) :
    g.WritesNothing name ↔
      (name ∈ StatementName.inserting ∧
        ∀ p ∈ g.entity.properties, ¬ g.catalog.HasColumns p) ∨
      (name ∈ StatementName.updating ∧
        ∀ p ∈ g.entity.properties, p.isKey = false → ¬ g.catalog.HasColumns p) := by
  have hwrites : ∀ name ∈ StatementName.inserting ++ StatementName.updating,
      name ∈ StatementName.inserting ++ StatementName.restricted ∧ name ≠ .deleteByIds := by
    decide
  have hslots : name ∈ StatementName.inserting ++ StatementName.updating →
      ∃ slots, g.slots = .ok slots := fun hname =>
    exists_slots_of_generates hrun h (hwrites name hname).1
      fun hids => absurd hids (hwrites name hname).2
  refine or_congr (and_congr_right fun hname => ?_) (and_congr_right fun hname => ?_)
  · obtain ⟨slots, hslots⟩ := hslots (List.mem_append_left _ hname)
    exact parts_eq_nil_iff hslots
  · obtain ⟨slots, hslots⟩ := hslots (List.mem_append_right _ hname)
    exact changedParts_eq_nil_iff hslots

/-- A statement that a key restricts compares no column with it exactly if no property of the
key has columns. -/
theorem comparesNothing_iff (hrun : g.run r = .ok (o, after)) (h : g.Generates r name) :
    g.ComparesNothing name ↔ name ∈ StatementName.restricted ∧ g.entity.key ≠ .none ∧
      ∀ p ∈ g.entity.properties, p.isKey = true → ¬ g.catalog.HasColumns p := by
  refine and_congr_right fun hname => and_congr_right fun _ => ?_
  by_cases hsimple : name = .deleteByIds ∧ ∃ p, g.entity.key = .simple p
  · obtain ⟨rfl, p, hkey⟩ := hsimple
    obtain ⟨hmem, hisKey, hcolumns⟩ := hasColumns_of_simple hkey
    have hparts : g.comparedParts .deleteByIds = [ownPart p] := by
      rw [comparedParts, if_pos (by decide), listedParts, hkey]
    rw [hparts]
    exact iff_of_false (List.cons_ne_nil _ _) fun hnone => hnone p hmem hisKey hcolumns
  · obtain ⟨slots, hslots⟩ := exists_slots_of_generates hrun h (List.mem_append_right _ hname)
      fun hids p hkey => hsimple ⟨hids, p, hkey⟩
    unfold comparedParts
    split
    · exact listedParts_eq_nil_iff hslots
    · exact keyParts_eq_nil_iff hslots

/-- No statement of a run is degenerate exactly if none of a generated name is. -/
theorem forall_not_degenerate_iff (hrun : g.run r = .ok (o, after)) :
    (∀ s ∈ o.statements, ¬ g.Degenerate s) ↔
      ∀ name, g.Generates r name → ¬ g.WritesNothing name ∧ ¬ g.ComparesNothing name := by
  constructor
  · intro hsound name hgenerates
    obtain ⟨s, hs, hid, _⟩ := exists_made_of_generates hrun hgenerates
    exact not_or.mp fun hnothing => hsound s hs ⟨name, hid, hnothing⟩
  · rintro hsound s hs ⟨name, hid, hnothing⟩
    exact not_or.mpr (hsound name (generates_of_mem_run hrun hs hid)) hnothing

/-- The statements of a run show what they list if every value is there, and none of them is
degenerate exactly if the entity has columns for all that are generated: any columns for
insertions, columns outside the key for updates, and columns of the key where there is one. -/
theorem run_degenerate_iff (hrun : g.run r = .ok (o, after)) :
    (∀ s ∈ o.statements, ∃ name, s.id = name.id ∧ g.Lists s name) ∧
    ((∀ s ∈ o.statements, ¬ g.Degenerate s) ↔
      ((∃ name ∈ StatementName.inserting, g.Generates r name) →
        ∃ p ∈ g.entity.properties, g.catalog.HasColumns p) ∧
      ((∃ name ∈ StatementName.updating, g.Generates r name) →
        ∃ p ∈ g.entity.properties, p.isKey = false ∧ g.catalog.HasColumns p) ∧
      ((∃ name ∈ StatementName.restricted, g.Generates r name) → g.entity.key ≠ .none →
        ∃ p ∈ g.entity.properties, p.isKey = true ∧ g.catalog.HasColumns p)) := by
  constructor
  · intro s hs
    obtain ⟨name, _, hid, companion, hmake⟩ := make_of_mem_run hrun hs
    exact ⟨name, hid, lists_of_make hmake⟩
  rw [forall_not_degenerate_iff hrun]
  constructor
  · intro hsound
    refine ⟨fun ⟨name, hname, h⟩ => ?_, fun ⟨name, hname, h⟩ => ?_,
      fun ⟨name, hname, h⟩ hkey => ?_⟩
    · by_contra hnone
      exact (hsound name h).1 ((writesNothing_iff hrun h).mpr (.inl ⟨hname, by simpa using hnone⟩))
    · by_contra hnone
      exact (hsound name h).1 ((writesNothing_iff hrun h).mpr (.inr ⟨hname, by simpa using hnone⟩))
    · by_contra hnone
      exact (hsound name h).2
        ((comparesNothing_iff hrun h).mpr ⟨hname, hkey, by simpa using hnone⟩)
  · rintro ⟨hinserts, hupdates, hrestricts⟩ name h
    rw [writesNothing_iff hrun h, comparesNothing_iff hrun h]
    constructor
    · rintro (⟨hname, hnone⟩ | ⟨hname, hnone⟩)
      · obtain ⟨p, hp, hcolumns⟩ := hinserts ⟨name, hname, h⟩
        exact hnone p hp hcolumns
      · obtain ⟨p, hp, hside, hcolumns⟩ := hupdates ⟨name, hname, h⟩
        exact hnone p hp hside hcolumns
    · rintro ⟨hname, hkey, hnone⟩
      obtain ⟨p, hp, hside, hcolumns⟩ := hrestricts ⟨name, hname, h⟩ hkey
      exact hnone p hp hside hcolumns

/-! ## Customers and memberships -/

/-- Customers have a key and a name, so that none of their statements is degenerate. -/
theorem run_degenerate_customers : ∃ o after, customers.run .empty = .ok (o, after) ∧
    o.statements.length = 16 ∧ ∀ s ∈ o.statements, ¬ customers.Degenerate s := by
  obtain ⟨o, after, hrun⟩ := exists_run_of_isOk
    (by decide : (customers.buildAll .empty StatementName.all).isOk = true)
  have hcolumns : ∀ p ∈ customers.entity.properties, p.isEmbedded = false →
      customers.catalog.HasColumns p := by
    intro p _ hplain hembedded
    rw [hplain] at hembedded
    cases hembedded
  have hkey : ∃ p ∈ customers.entity.properties, p.isKey = true ∧ p.isEmbedded = false := by
    decide
  have hname : ∃ p ∈ customers.entity.properties, p.isKey = false ∧ p.isEmbedded = false := by
    decide
  obtain ⟨id, hid, hidKey, hidPlain⟩ := hkey
  obtain ⟨other, hother, hotherKey, hotherPlain⟩ := hname
  refine ⟨_, _, hrun, ?_, (run_degenerate_iff hrun).2.mpr ⟨fun _ => ?_, fun _ => ?_,
    fun _ _ => ?_⟩⟩
  · exact (length_of_run hrun).trans (by decide)
  · exact ⟨id, hid, hcolumns id hid hidPlain⟩
  · exact ⟨other, hother, hotherKey, hcolumns other hother hotherPlain⟩
  · exact ⟨id, hid, hidKey, hcolumns id hid hidPlain⟩

/-- Memberships: pairs of a user and a group, with no columns beside the key. -/
def memberships : Generator :=
  let key (name : String) := Property.plain .id name "i64" ⟨.plain name, .bigint⟩
  let entity : Entity :=
    { Entity.plain "app::Membership" "memberships" with
      properties := [key "user_id", key "group_id"]
      keyClass? := some "app::MembershipKey" }
  { catalog := Catalog.add .empty entity
    dialect := .postgres
    repository := ⟨"app::Memberships", "app::Membership", false⟩
    entity
    defaultSequence := "membership_seq" }

/-- A membership without missing values. -/
def membership : Json := .object [("user_id", .int 1), ("group_id", .int 2)]

/-- Both columns of a membership are parts of its key. -/
theorem memberships_keyParts : memberships.keyParts =
    [⟨"user_id", none, ⟨.plain "user_id", .bigint⟩, true⟩,
      ⟨"group_id", none, ⟨.plain "group_id", .bigint⟩, true⟩] := by
  decide

/-- The update of a membership is registered and assigns nothing. -/
theorem run_degenerate_memberships : ∃ o after update,
    memberships.run .empty = .ok (o, after) ∧ update ∈ o.statements ∧ update.id = "__update" ∧
    update.body.evaluate (Request.empty.apply (.entity membership)).json =
      Sql.text "update memberships " ++ [] ++ Sql.text " where " ++
        (Sql.text "user_id = " ++ [.bound (.int 1) (some .bigint)] ++
          Sql.text " and group_id = " ++ [.bound (.int 2) (some .bigint)]) ∧
    memberships.Degenerate update := by
  obtain ⟨o, after, hrun⟩ := exists_run_of_isOk
    (by decide : (memberships.buildAll .empty StatementName.all).isOk = true)
  obtain ⟨slots, hslots⟩ := isOk_iff.mp (by decide : memberships.slots.isOk = true)
  have hgenerates : memberships.Generates .empty .update := by decide
  obtain ⟨update, hupdate, hid, companion, hmake⟩ := exists_made_of_generates hrun hgenerates
  have hnothing : memberships.changedParts = [] := by
    rw [changedParts_eq_nil_iff hslots]
    intro p hp hside
    have hkeys : ∀ p ∈ memberships.entity.properties, p.isKey = true := by decide
    rw [hkeys p hp] at hside
    cases hside
  have htext := listsUpdate_of_updateStatement hmake
    (Request.empty.apply (.entity membership)) (by simp [hnothing])
  refine ⟨_, _, update, hrun, hupdate, hid, ?_, .update, hid, .inl (.inr ⟨by decide, hnothing⟩)⟩
  have hmatch : memberships.matchSql
      (memberships.keyValue false (Request.empty.apply (.entity membership))) =
        Sql.text "user_id = " ++ [.bound (.int 1) (some .bigint)] ++
          Sql.text " and group_id = " ++ [.bound (.int 2) (some .bigint)] := by
    rw [matchSql, memberships_keyParts]
    rfl
  rw [htext, hnothing, hmatch]
  rfl

end Generator

end EntityMapping
