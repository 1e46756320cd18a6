import EntityMapping.Generation.KeyMatch
import EntityMapping.Proofs.Engine.Calls
import EntityMapping.Proofs.Fallible

/-!
# Searching by keys

The restriction of a search to given keys.  A simple key is looked up in the list of ids; the
columns of a key of several parts are compared with the members of every id.

Main results:

- `Generator.yields_guardedKeysMatch`: the restriction comes to one filter if ids are given.
- `Generator.keyFilters_visible`: with ids the filter is not empty.
-/

namespace EntityMapping.Generator

variable {g : Generator} {q : Request} {t : Template}

/-! ## Keys as SQL -/

/-- The slots of the key, none if the columns cannot be flattened. -/
def keyParts (g : Generator) : List Slot :=
  match g.keySlots with
  | .ok slots => slots
  | .error _ => []

/-- The comparison of the column of a slot with its member of an id. -/
def partSql (g : Generator) (id : Json) (s : Slot) : Sql :=
  Sql.text (g.column s ++ " = ") ++ [.bound (id.follow (pathNames s.member)) none]

/-- The condition that a row has the id as its key. -/
def idSql (g : Generator) (id : Json) : Sql :=
  Sql.join " and " (g.keyParts.map (g.partSql id))

/-- The condition that a row has one of the ids as its key. -/
def idsSql (g : Generator) (ids : List Json) : Sql :=
  match g.entity.key with
  | .simple p =>
    Sql.text (p.column.name.render g.dialect ++ " in ") ++
      Sql.looped "(" "," ")" (ids.map fun id => [.bound id none])
  | _ => Sql.looped "(" ") or (" ")" (ids.map g.idSql)

/-- The filter by keys: there is one if the entity has a key and ids are given. -/
def keyFilters (g : Generator) (ids? : Option (List Json)) : List Sql :=
  if g.entity.key = .none then [] else ids?.toList.map g.idsSql

/-- With a key, ids that are given restrict by it. -/
theorem keyFilters_of_key (h : g.entity.key ≠ .none) (ids? : Option (List Json)) :
    g.keyFilters ids? = ids?.toList.map g.idsSql := by
  rw [keyFilters, if_neg h]

/-- Ids of a simple key are compared as one list. -/
theorem idsSql_simple {p : Property} (h : g.entity.key = .simple p) (ids : List Json) :
    g.idsSql ids = Sql.text (p.column.name.render g.dialect ++ " in ") ++
      Sql.looped "(" "," ")" (ids.map fun id => [.bound id none]) := by
  rw [idsSql, h]

/-- Ids of other keys are compared one by one and disjoined. -/
theorem idsSql_of_parts (h : ∀ p, g.entity.key ≠ .simple p) (ids : List Json) :
    g.idsSql ids = Sql.looped "(" ") or (" ")" (ids.map g.idSql) := by
  unfold idsSql
  split
  · next p hkey => exact absurd hkey (h p)
  · rfl

/-! ## Running -/

/-- A round of the loop over ids compares every part of the key. -/
theorem gives_idRound {s : Scope} {id : Json}
    (hitem : ∀ path, s.value ("item" ++ "." ++ path) = id.follow (pathNames path)) :
    (Template.join " and " (g.keyParts.map fun slot =>
      .text (g.column slot ++ " = ") ++ .value ("item." ++ slot.member) none)).Gives s
        (g.idSql id) := by
  refine Template.Gives.join fun slot _ => ?_
  have hvalue := Template.gives_value (s := s) ("item" ++ "." ++ slot.member) none
  rw [hitem slot.member] at hvalue
  exact (Template.gives_text _).append hvalue

/-- The loop over ids compares the key with each of them. -/
theorem yields_idsLoop {ids : List Json}
    (h : (g.keySlots.map fun slots =>
      Template.loop
        [(.collection, Parameter.ids.name), (.item, "item"), (.index, "index"), (.opening, "("),
          (.separator, ") or ("), (.closing, ")")]
        (.join " and " (slots.map fun s =>
          .text (g.column s ++ " = ") ++ .value ("item." ++ s.member) none))) = .ok t)
    (hitems : ∀ s : Scope, s.Sees q →
      (s.value Parameter.ids.name).items = ids.map fun id => id) :
    t.Yields q (Sql.looped "(" ") or (" ")" (ids.map g.idSql)) := by
  obtain ⟨slots, hslots, h⟩ := map_eq_ok.mp h
  cases h
  have hparts : g.keyParts = slots := by
    rw [keyParts, hslots]
  rw [← hparts]
  refine Template.yields_of_gives fun s hs => ?_
  refine Template.eval_loop_of_rounds (hitems s hs) fun id _ index => ?_
  have hround := gives_idRound (g := g) (s := (s.bind "index" (.int index)).bind "item" id)
    fun path => Scope.value_bind_inside _ (by decide) id path
  exact congrArg Prod.fst hround

/-- The condition on keys comes to the comparison of the key with the ids. -/
theorem yields_keysMatch (h : g.keysMatch = .ok t) {ids : List Json} (hids : q.ids? = some ids) :
    t.Yields q (g.idsSql ids) := by
  have hvalue : q.valueOf .ids = .array ids := by
    simp [Request.valueOf, hids]
  have hitems : ∀ s : Scope, s.Sees q →
      (s.value Parameter.ids.name).items = ids.map fun id => id := by
    intro s hs
    rw [hs.value, hvalue, List.map_id']
    rfl
  unfold keysMatch at h
  cases hkey : g.entity.key with
  | none =>
    rw [hkey] at h
    cases h
  | simple p =>
    rw [hkey] at h
    cases h
    rw [idsSql_simple hkey]
    refine Template.Yields.append (Template.yields_text _) (Template.yields_of_gives fun s hs => ?_)
    refine Template.eval_loop_of_rounds (hitems s hs) fun id _ index => ?_
    have hid : ((s.bind "index" (.int index)).bind "item" id).value "item" = id :=
      Scope.value_bind_self _ (by decide) id
    exact congrArg (fun v => [Piece.bound v none]) hid
  | embedded p =>
    rw [hkey] at h
    rw [idsSql_of_parts fun p => by simp [hkey]]
    exact yields_idsLoop h hitems
  | composite properties keyClass =>
    rw [hkey] at h
    rw [idsSql_of_parts fun p => by simp [hkey]]
    exact yields_idsLoop h hitems

/-- The restriction comes to one filter if ids are given, and to none otherwise. -/
theorem yields_guardedKeysMatch (h : g.guardedKeysMatch = .ok t) :
    t.Yields q ((g.keyFilters q.ids?).flatMap fun filter => Sql.text " and " ++ filter) := by
  unfold guardedKeysMatch at h
  cases htype : g.entity.keyType? with
  | none =>
    rw [htype] at h
    cases h
    have hkey : g.entity.key = .none := by
      by_contra hne
      have hsome := (Entity.keyType?_isSome g.entity).mpr hne
      rw [htype] at hsome
      cases hsome
    simpa [keyFilters, hkey] using Template.yields_empty
  | some typeName =>
    rw [htype] at h
    obtain ⟨condition, hcondition, h⟩ := map_eq_ok.mp h
    cases h
    have hkey : g.entity.key ≠ .none :=
      (Entity.keyType?_isSome g.entity).mp (by rw [htype]; rfl)
    rw [keyFilters_of_key hkey]
    cases hids : q.ids? with
    | none =>
      intro s hs
      refine ⟨s, Template.eval_guard_of_not ?_ _, hs⟩
      simp [Scope.passes, hs.value, Request.valueOf, hids, Json.isNull]
    | some ids =>
      have hpresent : (q.valueOf .ids).isNull = false := by
        simp [Request.valueOf, hids, Json.isNull]
      have hguard := Template.Yields.whenPresent (p := .ids) fun _ =>
        (Template.yields_text (q := q) " and ").append (yields_keysMatch hcondition hids)
      rw [hpresent] at hguard
      simpa [Generation.whenPresent] using hguard

/-- With ids the filter is not empty. -/
theorem keyFilters_visible {ids? : Option (List Json)} (hids : ids? ≠ some []) :
    ∀ filter ∈ g.keyFilters ids?, filter.IsVisible := by
  intro filter hfilter
  by_cases hkey : g.entity.key = .none
  · simp [keyFilters, hkey] at hfilter
  · rw [keyFilters_of_key hkey] at hfilter
    obtain ⟨ids, hsome, rfl⟩ := List.mem_map.mp hfilter
    have hne : ids ≠ [] := by
      rintro rfl
      exact hids (by simpa using hsome)
    obtain ⟨id, rest, rfl⟩ := List.exists_cons_of_ne_nil hne
    have hopening : (Sql.text "(").IsVisible := by decide
    unfold idsSql
    split
    · refine Sql.IsVisible.append_right ?_ _
      exact (hopening.append_left _).append_left _
    · exact (hopening.append_left _).append_left _

end EntityMapping.Generator
