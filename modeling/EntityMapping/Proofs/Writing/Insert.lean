import EntityMapping.Generation.Insert
import EntityMapping.Proofs.Writing.Update

/-!
# Insertions

What the two insertions come to.  The columns and the values of a selective insertion are
listed one after the other, each guarded by its value; both lists leave out the same slots, so
each value stands in the place of its column.

Main results:

- `Generator.gives_insertPresent`: the lists of a selective insertion are those of the slots
  whose values are not null.
- `Generator.insertions_align`: both insertions list columns and values in the order of the
  same slots, after the same selection of a key.
-/

namespace EntityMapping

/-- The text of joined texts is their join. -/
theorem Sql.text_intercalate (separator : String) (items : List String) :
    Sql.text (separator.intercalate items) = Sql.join separator (items.map Sql.text) := by
  induction items with
  | nil => simp
  | cons item rest ih =>
    cases rest with
    | nil => simp
    | cons next rest =>
      rw [String.intercalate_cons_cons, List.map_cons, List.map_cons, Sql.join_cons_cons,
        Sql.text_append, Sql.text_append, ih, List.map_cons]

namespace Generator

variable {g : Generator} {scope : Scope} {entity : Json} {slots : List Slot}

/-! ## Lists -/

/-- The columns of slots. -/
def columnsSql (g : Generator) (slots : List Slot) : List Sql :=
  slots.map fun s => Sql.text (g.column s)

/-- The values of slots in an entity, with the types of their columns. -/
def valuesSql (entity : Json) (slots : List Slot) : List Sql :=
  slots.map fun s => [.bound (s.valueIn entity) (some s.column.type)]

/-- The list of columns is their SQL with commas between. -/
theorem text_columnList (g : Generator) (slots : List Slot) :
    Sql.text (g.columnList slots) = Sql.join "," (g.columnsSql slots) := by
  rw [columnList, Sql.text_intercalate, List.map_map]
  rfl

/-- The key of a new row is selected outside of the insertion. -/
theorem gives_insertKey {select : Template} {key? : Option KeyInfo}
    (h : g.insertKey = .ok (select, key?)) : select.Gives scope [] := by
  unfold insertKey at h
  split at h
  · split at h
    · cases h
      rfl
    · obtain ⟨selected, hselected, h⟩ := map_eq_ok.mp h
      obtain ⟨found, _, rfl⟩ := map_eq_ok.mp hselected
      cases h
      rfl
  · cases h
    rfl

variable (hvalue : ∀ s ∈ slots, scope.value s.path = s.valueIn entity)

include hvalue in
/-- The value of a slot in the inserted entity. -/
theorem gives_insertedValue {s : Slot} (hs : s ∈ slots) :
    (Generation.typedValue s.path s.column).Gives scope
      [.bound (s.valueIn entity) (some s.column.type)] := by
  rw [← hvalue s hs]
  exact Template.gives_value _ _

include hvalue in
/-- A list in brackets of items that each end in a comma, if their values are not null. -/
theorem gives_commaList {t : Slot → Template} (front : String) (sql : Slot → Sql)
    (h : ∀ s ∈ slots, (t s).Gives scope (sql s ++ Sql.text ",")) :
    (commaList front (slots.map fun s => Generation.whenPresent s.path (t s))).Gives scope
      (Sql.listed front ")" ((presentIn entity slots).map sql)) := by
  have hpresent : (slots.filter fun s => !(scope.value s.path).isNull) = presentIn entity slots :=
    List.filter_congr fun s hs => by rw [hvalue s hs]
  have hguarded := Template.Gives.concatPresent Slot.path h
  rw [hpresent, ← List.flatMap_map (f := sql) (g := fun sql => sql ++ Sql.text ",")] at hguarded
  have hwrapped := hguarded.trim [(.front, front), (.back, ")"), (.backDropped, ",")]
  rw [← Sql.wrapped_terminated]
  exact hwrapped

include hvalue in
/-- The insertion of all columns lists every slot. -/
theorem gives_insertAll :
    (g.insertAll slots).Gives scope
      (Sql.text ("insert into " ++ g.table ++ " (") ++ Sql.join "," (g.columnsSql slots) ++
        Sql.text ") values (" ++ Sql.join "," (valuesSql entity slots) ++ Sql.text ")") := by
  let front := "insert into " ++ g.table ++ " (" ++ g.columnList slots ++ ") values ("
  have hfront : Sql.text front = Sql.text ("insert into " ++ g.table ++ " (") ++
      Sql.join "," (g.columnsSql slots) ++ Sql.text ") values (" := by
    rw [← text_columnList]
    simp [front]
  have hvalues : (Template.join "," (slots.map fun s => Generation.typedValue s.path s.column)).Gives
      scope (Sql.join "," (valuesSql entity slots)) :=
    Template.Gives.join fun s hs => gives_insertedValue hvalue hs
  rw [← hfront]
  exact ((Template.gives_text front).append hvalues).append (Template.gives_text ")")

include hvalue in
/-- The selective insertion lists the slots whose values are not null, twice. -/
theorem gives_insertPresent :
    (g.insertPresent slots).Gives scope
      (Sql.text ("insert into " ++ g.table ++ " ") ++
        Sql.listed "(" ")" (g.columnsSql (presentIn entity slots)) ++ Sql.text " " ++
        Sql.listed "values(" ")" (valuesSql entity (presentIn entity slots))) := by
  have hcolumn : ∀ s ∈ slots, (Template.text (g.column s ++ ",")).Gives scope
      (Sql.text (g.column s) ++ Sql.text ",") := by
    intro s _
    rw [← Sql.text_append]
    exact Template.gives_text (g.column s ++ ",")
  have hcolumns := gives_commaList hvalue "(" (fun s => Sql.text (g.column s)) hcolumn
  have hvalues := gives_commaList hvalue "values(" _ fun s hs =>
    (gives_insertedValue hvalue hs).append (Template.gives_text ",")
  exact (((Template.gives_text _).append hcolumns).append (Template.gives_text " ")).append hvalues

/-- If some values are not null, both lists are there. -/
theorem listed_columns_values (front : String) (hne : slots ≠ []) :
    Sql.text (front ++ " ") ++ Sql.listed "(" ")" (g.columnsSql slots) ++ Sql.text " " ++
        Sql.listed "values(" ")" (valuesSql entity slots) =
      Sql.text (front ++ " (") ++ Sql.trimStart (Sql.join "," (g.columnsSql slots)) ++
        Sql.text ") values(" ++ Sql.join "," (valuesSql entity slots) ++ Sql.text ")" := by
  have hcolumns : g.columnsSql slots ≠ [] := by simpa [columnsSql] using hne
  have hvalues : valuesSql entity slots ≠ [] := by simpa [valuesSql] using hne
  have hopening : Sql.text " (" = Sql.text " " ++ Sql.text "(" := rfl
  have hmiddle : Sql.text ") values(" = Sql.text ")" ++ Sql.text " " ++ Sql.text "values(" := rfl
  have htrimmed : Sql.trimStart (Sql.join "," (valuesSql entity slots)) =
      Sql.join "," (valuesSql entity slots) := Sql.trimStart_join_values _ _ slots
  rw [Sql.listed_of_ne_nil hcolumns, Sql.listed_of_ne_nil hvalues, htrimmed]
  simp [hopening, hmiddle]

/-! ## Statements -/

/-- Both insertions put the value of each slot in the place of its column, and select the same
key in the same way.  The selective one lists the slots whose values are not null, which may be
all of them.  Blanks before its first column do not count. -/
theorem insertions_align (hkey : ¬ g.RefusesKey) (hembedded : ¬ g.LacksEmbedded) :
    ∃ slots select key? full part, g.slots = .ok slots ∧ g.insertKey = .ok (select, key?) ∧
      g.insertStatement false = .ok full ∧ g.insertStatement true = .ok part ∧
      full.body = select ++ g.insertAll slots ∧ part.body = select ++ g.insertPresent slots ∧
      full.key? = key? ∧ part.key? = key? ∧
      ∀ (entity : Json) (scope : Scope), entity.IsRecord →
        scope.Carries entity (slots.map Slot.path) →
          full.body.Gives scope
            (Sql.text ("insert into " ++ g.table ++ " (") ++ Sql.join "," (g.columnsSql slots) ++
              Sql.text ") values (" ++ Sql.join "," (valuesSql entity slots) ++ Sql.text ")") ∧
          (presentIn entity slots ≠ [] → part.body.Gives scope
            (Sql.text ("insert into " ++ g.table ++ " (") ++
              Sql.trimStart (Sql.join "," (g.columnsSql (presentIn entity slots))) ++
              Sql.text ") values(" ++ Sql.join "," (valuesSql entity (presentIn entity slots)) ++
              Sql.text ")")) ∧
          ((∀ s ∈ slots, (s.valueIn entity).isNull = false) → presentIn entity slots = slots) := by
  obtain ⟨slots, hslots⟩ := not_fails_iff.mp (fails_slots_iff.not.mpr hembedded)
  obtain ⟨⟨select, key?⟩, hselect⟩ := not_fails_iff.mp (fails_insertKey_iff.not.mpr hkey)
  have hinsert : ∀ selective, ∃ insert, g.insertStatement selective = .ok insert ∧
      insert.body = select ++ (if selective then g.insertPresent slots else g.insertAll slots) ∧
      insert.key? = key? := fun selective =>
    ⟨_, bind_eq_ok.mpr ⟨_, hselect, bind_eq_ok.mpr ⟨_, hslots, rfl⟩⟩, rfl, rfl⟩
  obtain ⟨full, hfull, hfullBody, hfullKey⟩ := hinsert false
  obtain ⟨part, hpart, hpartBody, hpartKey⟩ := hinsert true
  refine ⟨slots, select, key?, full, part, hslots, hselect, hfull, hpart, hfullBody, hpartBody,
    hfullKey, hpartKey, fun entity scope hentity hcarries => ?_⟩
  have hvalue : ∀ s ∈ slots, scope.value s.path = s.valueIn entity :=
    fun s hs => hcarries.value hentity (List.mem_map_of_mem hs)
  refine ⟨?_, fun hne => ?_, presentIn_of_present⟩
  · rw [hfullBody]
    exact (gives_insertKey hselect).append (gives_insertAll hvalue)
  · rw [hpartBody, ← listed_columns_values ("insert into " ++ g.table) hne]
    exact (gives_insertKey hselect).append (gives_insertPresent hvalue)

/-! ## Insertions of customers -/

/-- A selective insertion leaves out the street, as a column and as a value. -/
theorem insertions_align_customers : ∃ part, customers.insertStatement true = .ok part ∧
    part.key? = some ⟨"id", "id", true, some .before⟩ ∧
    part.body.evaluate ann =
      Sql.text "insert into customers (id,name,city) values(" ++
        [.bound (.int 1) (some .bigint)] ++ Sql.text "," ++
        [.bound (.string "ann") (some .varchar)] ++ Sql.text "," ++
        [.bound (.string "Rome") (some .varchar)] ++ Sql.text ")" := by
  have hserved : customers.insertKey.isOk = true := by decide
  obtain ⟨slots, select, key?, full, part, hslots, hselect, _, hpart, _, _, _, hkey, hgives⟩ :=
    insertions_align (fails_insertKey_iff.not.mp (not_fails_iff.mpr (isOk_iff.mp hserved)))
      customers_complete
  rw [customers_slots] at hslots
  cases hslots
  have hcarries : (Scope.of ann).Carries ann (["id", "name", "address.street", "address.city"]) :=
    Scope.Carries.of (by decide)
  obtain ⟨_, htext, _⟩ := hgives ann (Scope.of ann) trivial hcarries
  have hgenerated : customers.insertKey.map Prod.snd =
      .ok (some ⟨"id", "id", true, some .before⟩) := by decide
  rw [hselect] at hgenerated
  exact ⟨part, hpart, hkey.trans (Except.ok.inj hgenerated),
    congrArg Prod.fst (htext (List.cons_ne_nil _ _))⟩

end Generator

end EntityMapping
