import EntityMapping.Proofs.Columns.RoundTrip
import EntityMapping.Proofs.Run.Effect

/-!
# What a run depends on

The statements of a repository depend on its entity, on the entities that this one embeds, and
on the ids that are taken in its namespace.  Other entities, other namespaces and the contents
of registered statements do not matter, neither for the statements nor for the errors.

Main results:

- `Generator.make_congr`: a statement is made from the entity and what it embeds.
- `Generator.find?_buildAll`: what is built for a name is what its own step gives.
- `Generator.run_noninterference`: what two runs over different catalogs and registries share.
-/

namespace EntityMapping

/-! ## Agreement -/

/-- Two catalogs hold the same types as far as an entity embeds them. -/
def Catalog.AgreeOn (c c' : Catalog) (e : Entity) : Prop :=
  ∀ p ∈ e.properties, p.isEmbedded = true → c.get? p.typeName = c'.get? p.typeName

/-- Two catalogs hold the same entity of a type, and the same types as far as it embeds them. -/
def Catalog.Agree (c c' : Catalog) (typeName : String) : Prop :=
  c.get? typeName = c'.get? typeName ∧ ∀ e, c.get? typeName = some e → c.AgreeOn c' e

/-- In two registries the same ids of generated statements are taken in a namespace. -/
def Registry.SameTaken (r r' : Registry) (namespaceName : String) : Prop :=
  ∀ name : StatementName,
    r.contains ⟨namespaceName, name.id⟩ = r'.contains ⟨namespaceName, name.id⟩

/-- Generate the statements of a repository over a catalog. -/
def Repository.generate (repository : Repository) (catalog : Catalog) (dialect : Dialect)
    (defaultSequence : String) (r : Registry) : Except MappingError (Outcome × Registry) := do
  let g ← Generator.new catalog dialect repository defaultSequence
  g.run r

/-! ## What is looked up -/

namespace Catalog

variable {c c' : Catalog}

/-- A required type is read from its own entry only. -/
theorem required_congr {typeName : String} (h : c.get? typeName = c'.get? typeName) :
    c.required typeName = c'.required typeName := by
  rw [required, required, h]

/-- Flattening reads the entries of the embedded types only. -/
theorem slotsOf_congr {ps : List Property}
    (h : ∀ p ∈ ps, p.isEmbedded = true → c.get? p.typeName = c'.get? p.typeName) :
    c.slotsOf ps = c'.slotsOf ps := by
  induction ps with
  | nil => rfl
  | cons p rest ih =>
    have hrest := ih fun q hq => h q (List.mem_cons_of_mem p hq)
    have hproperty : c.slotsOfProperty p = c'.slotsOfProperty p := by
      unfold slotsOfProperty
      split
      · next hembedded => rw [required_congr (h p List.mem_cons_self hembedded)]
      · rfl
    rw [slotsOf, slotsOf, hproperty, hrest]

end Catalog

namespace Generation

/-- Associations read the entries of the embedded types only. -/
theorem associations_congr {c c' : Catalog} {ps : List Property}
    (h : ∀ p ∈ ps, p.isEmbedded = true → c.get? p.typeName = c'.get? p.typeName) :
    associations c ps = associations c' ps := by
  induction ps with
  | nil => rfl
  | cons p rest ih =>
    have hrest := ih fun q hq => h q (List.mem_cons_of_mem p hq)
    rw [associations, associations, hrest]
    split
    · next hembedded => rw [Catalog.required_congr (h p List.mem_cons_self hembedded)]
    · rfl

end Generation

namespace Generator

variable {g : Generator} {c' : Catalog} {r r' : Registry}

/-! ## Statements -/

/-- A statement is made from the entity and what it embeds. -/
theorem make_congr (h : g.catalog.AgreeOn c' g.entity) (companion : String)
    (name : StatementName) :
    { g with catalog := c' }.make companion name = g.make companion name := by
  have hslots : { g with catalog := c' }.slots = g.slots := (Catalog.slotsOf_congr h).symm
  have hassociations := Generation.associations_congr h
  have hmatch : ∀ source, { g with catalog := c' }.keyMatch source = g.keyMatch source := by
    intro source
    unfold keyMatch keySlots
    rw [hslots]
    rfl
  have hmatches : { g with catalog := c' }.keysMatch = g.keysMatch := by
    unfold keysMatch keySlots
    rw [hslots]
    rfl
  have hinsert : ∀ selective,
      { g with catalog := c' }.insertStatement selective = g.insertStatement selective := by
    intro selective
    unfold insertStatement
    rw [hslots]
    rfl
  have hupdate : ∀ selective byId,
      { g with catalog := c' }.updateStatement selective byId = g.updateStatement selective byId := by
    intro selective byId
    unfold updateStatement
    rw [hslots, hmatch]
    rfl
  have hfind : ∀ paged,
      { g with catalog := c' }.findStatement paged = g.findStatement paged := by
    intro paged
    unfold findStatement findQuery guardedKeysMatch orderBy
    rw [hslots, hmatches]
    rfl
  cases name with
  | resultMap =>
    unfold make resultMapStatement
    rw [← hassociations]
    rfl
  | baseColumnList =>
    unfold make baseColumnListStatement
    rw [hslots]
    rfl
  | insertSelective => exact hinsert true
  | insert => exact hinsert false
  | updateSelectiveById => exact hupdate true true
  | updateSelective => exact hupdate true false
  | updateById => exact hupdate false true
  | update => exact hupdate false false
  | deleteById =>
    unfold make deleteByIdStatement
    rw [hmatch]
    rfl
  | deleteByIds =>
    unfold make deleteByIdsStatement
    rw [hmatches]
    rfl
  | getById =>
    unfold make getByIdStatement
    rw [hmatch]
    rfl
  | findByPager => exact hfind true
  | find => exact hfind false
  | deleteAll => rfl
  | countAll => rfl
  | count => rfl
  | exampleWhereClause => rfl
  | findByExample => rfl

/-- A step depends on the registry only by whether its own id is taken. -/
theorem build_congr (h : g.catalog.AgreeOn c' g.entity) {name : StatementName}
    (htaken : g.taken r name = g.taken r' name) :
    { g with catalog := c' }.build r' name = g.build r name := by
  have hmake := make_congr h
  have htaken' : { g with catalog := c' }.taken r' name = g.taken r name := htaken.symm
  unfold build
  simp only [hmake, htaken']
  rfl

/-- Catalogs that agree on an entity and registries that leave the same places free give the same
statements. -/
theorem buildAll_congr (h : g.catalog.AgreeOn c' g.entity)
    (htaken : ∀ name, g.taken r name = g.taken r' name) (names : List StatementName) :
    { g with catalog := c' }.buildAll r' names = g.buildAll r names := by
  induction names with
  | nil => rfl
  | cons name rest ih => rw [buildAll, buildAll, build_congr h (htaken name), ih]

/-- What is built for a name is what its own step gives. -/
theorem find?_buildAll {names : List StatementName} {built : List Statement}
    {name : StatementName} (h : g.buildAll r names = .ok built) (hnodup : names.Nodup)
    (hname : name ∈ names) :
    g.build r name = .ok (built.find? fun s => s.key == g.place name) := by
  induction names generalizing built with
  | nil => cases hname
  | cons first rest ih =>
    obtain ⟨hfirst, hrest⟩ := List.nodup_cons.mp hnodup
    obtain ⟨built?, hbuild, h⟩ := bind_eq_ok.mp h
    obtain ⟨others, hothers, h⟩ := bind_eq_ok.mp h
    cases h
    rcases List.mem_cons.mp hname with rfl | hname
    · -- The later statements belong to other names.
      have hnone : others.find? (fun s => s.key == g.place name) = none := by
        refine List.find?_eq_none.mpr fun s hs hkey => ?_
        have hplace : s.key ∈ (rest.filter (g.Generates r ·)).map g.place := by
          rw [← buildAll_keys hothers]
          exact List.mem_map_of_mem hs
        obtain ⟨other, hother, heq⟩ := List.mem_map.mp hplace
        have hsame : other = name := place_injective (heq.trans (by simpa using hkey))
        exact hfirst (hsame ▸ (List.mem_filter.mp hother).1)
      rw [hbuild, List.find?_append, hnone]
      rcases build_spec hbuild with ⟨_, s, rfl, hkey⟩ | ⟨_, rfl⟩
      · simp [hkey]
      · rfl
    · have hne : first ≠ name := fun heq => hfirst (heq ▸ hname)
      have hskip : built?.toList.find? (fun s => s.key == g.place name) = none := by
        refine List.find?_eq_none.mpr fun s hs hkey => ?_
        rcases build_spec hbuild with ⟨_, made, rfl, hmade⟩ | ⟨_, rfl⟩
        · obtain rfl : s = made := by simpa using hs
          exact hne (place_injective (hmade.symm.trans (by simpa using hkey)))
        · cases hs
      rw [ih hothers hrest hname, List.find?_append, hskip, Option.none_or]

/-- After a run, a free place holds what the step of its name gives. -/
theorem get?_of_run {o : Outcome} {after : Registry} (hrun : g.run r = .ok (o, after))
    {name : StatementName} (hfree : r.get? (g.place name) = none) :
    g.build r name = .ok (after.get? (g.place name)) := by
  obtain ⟨built, hbuilt, rfl, rfl⟩ := run_eq_ok_iff.mp hrun
  rw [Registry.get?_registerAll, hfree, Option.none_or]
  exact find?_buildAll hbuilt StatementName.all_nodup (StatementName.mem_all name)

/-- The statements of the outcome under a free place are what the registry then holds there. -/
theorem mem_statements_iff {o : Outcome} {after : Registry} (hrun : g.run r = .ok (o, after))
    {name : StatementName} (hfree : r.get? (g.place name) = none) {s : Statement}
    (hid : s.id = name.id) :
    s ∈ o.statements ↔
      s.namespaceName = g.repository.namespaceName ∧ after.get? (g.place name) = some s := by
  obtain ⟨built, hbuilt, rfl, rfl⟩ := run_eq_ok_iff.mp hrun
  have hold := buildAll_free hbuilt
  have hdistinct := buildAll_distinct hbuilt
  have hns := buildAll_namespace hbuilt
  have hplace : s.key = g.place name ↔ s.namespaceName = g.repository.namespaceName := by
    simp [Statement.key, place, hid]
  rw [Registry.registerAll_of_fresh hold hdistinct, Registry.get?_registerAll_iff hold hdistinct,
    hplace, hfree]
  constructor
  · exact fun hs => ⟨hns s hs, .inr ⟨hs, hns s hs⟩⟩
  · rintro ⟨_, h | ⟨hs, _⟩⟩
    · cases h
    · exact hs

/-! ## Two runs -/

variable {c : Catalog} {repository : Repository} {d : Dialect} {defaultSequence : String}

/-- Generation is the run of the generator of its repository. -/
theorem generate_of_new (hnew : Generator.new c d repository defaultSequence = .ok g) :
    repository.generate c d defaultSequence r = g.run r := by
  rw [Repository.generate, hnew]
  rfl

/-- A successful generation is the run of the generator of its repository. -/
theorem run_of_generate {o : Outcome} {after : Registry}
    (h : repository.generate c d defaultSequence r = .ok (o, after)) :
    ∃ g, Generator.new c d repository defaultSequence = .ok g ∧ g.run r = .ok (o, after) :=
  bind_eq_ok.mp h

/-- The generators of a repository over catalogs that agree differ in the catalog alone. -/
theorem new_congr (h : c.Agree c' repository.domain) :
    Generator.new c' d repository defaultSequence =
      (Generator.new c d repository defaultSequence).map fun g => { g with catalog := c' } := by
  rw [Generator.new, Generator.new, Catalog.required_congr h.1.symm]
  cases c.required repository.domain <;> rfl

/-- A generator reads what its catalog says of the domain of its repository. -/
theorem agreeOn_of_new (h : c.Agree c' repository.domain)
    (hnew : Generator.new c d repository defaultSequence = .ok g) :
    g.catalog.AgreeOn c' g.entity ∧ g.repository = repository := by
  obtain ⟨e, hfound, rfl⟩ := map_eq_ok.mp hnew
  refine ⟨h.2 e ?_, rfl⟩
  unfold Catalog.required at hfound
  cases hget : c.get? repository.domain with
  | none => simp [hget] at hfound
  | some found =>
    rw [hget] at hfound
    cases hfound
    rfl

/-- The statements built are registered as they are, so the outcome tells them. -/
theorem outcome_of_run (g : Generator) (r : Registry) :
    (g.run r).map Prod.fst =
      (g.buildAll r StatementName.all).map fun built =>
        ⟨g.repository.namespaceName, built⟩ := by
  cases hbuilt : g.buildAll r StatementName.all with
  | error e => simp [run, hbuilt, bind, Except.bind, Except.map]
  | ok built =>
    have hrun := run_eq_ok_iff.mpr ⟨built, hbuilt, rfl, rfl⟩
    rw [hrun, Registry.registerAll_of_fresh (buildAll_free hbuilt) (buildAll_distinct hbuilt)]
    rfl

/-- Over two catalogs that agree on the entity of a repository and on what it embeds, the
outcome and the error are the same if the same ids are taken in the namespace of the
repository; and whatever is taken, an id that was free both times has the same statement in
both outcomes and in both registries. -/
theorem run_noninterference (repository : Repository) (c c' : Catalog) (d : Dialect)
    (defaultSequence : String) (hagree : c.Agree c' repository.domain) :
    (∀ r r' : Registry, r.SameTaken r' repository.namespaceName →
      (repository.generate c d defaultSequence r).map Prod.fst =
        (repository.generate c' d defaultSequence r').map Prod.fst) ∧
    ∀ r r' o o' after after',
      repository.generate c d defaultSequence r = .ok (o, after) →
      repository.generate c' d defaultSequence r' = .ok (o', after') →
      ∀ name : StatementName,
        r.contains ⟨repository.namespaceName, name.id⟩ = false →
        r'.contains ⟨repository.namespaceName, name.id⟩ = false →
        after.get? ⟨repository.namespaceName, name.id⟩ =
            after'.get? ⟨repository.namespaceName, name.id⟩ ∧
          ∀ s : Statement, s.id = name.id → (s ∈ o.statements ↔ s ∈ o'.statements) := by
  constructor
  · intro r r' htaken
    unfold Repository.generate
    rw [new_congr hagree]
    cases hnew : Generator.new c d repository defaultSequence with
    | error e => rfl
    | ok g =>
      obtain ⟨hembedded, hrepository⟩ := agreeOn_of_new hagree hnew
      have hsame : ∀ name, g.taken r name = g.taken r' name := by
        intro name
        unfold taken
        rw [hrepository]
        exact htaken name
      show (g.run r).map Prod.fst = (Generator.run { g with catalog := c' } r').map Prod.fst
      rw [outcome_of_run, outcome_of_run, buildAll_congr hembedded hsame]
  · intro r r' o o' after after' hgenerate hgenerate' name hfree hfree'
    obtain ⟨g, hnew, hrun⟩ := run_of_generate hgenerate
    obtain ⟨g', hnew', hrun'⟩ := run_of_generate hgenerate'
    obtain ⟨hembedded, hrepository⟩ := agreeOn_of_new hagree hnew
    obtain rfl : { g with catalog := c' } = g' := by
      rw [new_congr hagree, hnew] at hnew'
      exact Except.ok.inj hnew'
    subst hrepository
    have hplace : r.get? (g.place name) = none := taken_eq_false_iff.mp hfree
    have hplace' : r'.get? (g.place name) = none := taken_eq_false_iff.mp hfree'
    -- The step of a free id asks the registry for nothing else.
    have hstep : Generator.build { g with catalog := c' } r' name = g.build r name :=
      build_congr hembedded (hfree.trans hfree'.symm)
    have hget : after.get? (g.place name) = after'.get? (g.place name) := by
      have h := get?_of_run hrun hplace
      have h' := get?_of_run hrun' hplace'
      exact Except.ok.inj (h.symm.trans (hstep.symm.trans h'))
    refine ⟨hget, fun s hid => ?_⟩
    rw [mem_statements_iff hrun hplace hid, hget]
    exact (mem_statements_iff hrun' hplace' hid).symm

/-! ## Invoices beside other entities -/

/-- The catalog of the invoices with an entity that they do not embed. -/
def invoicesBeside : Catalog := invoices.catalog.add (Entity.plain "app::Log" "logs")

/-- A registry with a search of invoices written by hand. -/
def searchWritten (sql : String) : Registry :=
  (Registry.registerAll .empty [.plain .select "app::Invoices" "__find" (.text sql)]).2

/-- A registry with a search of invoices written by hand, and a count of another namespace. -/
def countBeside : Registry :=
  ((searchWritten "select 2").register (.plain .select "app::Logs" "__count" (.text "select 3"))).2

/-- A registry with an insertion of invoices written by hand. -/
def insertionWritten : Registry :=
  (Registry.registerAll .empty
    [.plain .insert "app::Invoices" "__insert" (.text "insert into invoices values ()")]).2

/-- Another entity beside the invoices changes nothing of them. -/
theorem invoices_agree : invoices.catalog.Agree invoicesBeside "app::Invoice" := by
  have hinvoice : invoices.catalog.get? "app::Invoice" = some invoices.entity := by decide
  refine ⟨by decide, fun e he => ?_⟩
  rw [hinvoice] at he
  cases he
  exact fun p hp => (by decide : ∀ p ∈ invoices.entity.properties,
    p.isEmbedded = true → invoices.catalog.get? p.typeName = invoicesBeside.get? p.typeName) p hp

/-- The generator of the invoices is made from their catalog. -/
theorem invoices_new :
    Generator.new invoices.catalog .mysql invoices.repository "invoice_seq" = .ok invoices := rfl

/-- It is made from the larger catalog as well. -/
theorem invoicesBeside_new :
    Generator.new invoicesBeside .mysql invoices.repository "invoice_seq" =
      .ok { invoices with catalog := invoicesBeside } := rfl

/-- Neither the text of the search written by hand nor the other entity and namespace matter,
and a hand-written insertion changes nothing in the search that is generated. -/
theorem run_noninterference_invoices :
    ((invoices.repository.generate invoices.catalog .mysql "invoice_seq"
        (searchWritten "select 1")).map Prod.fst =
      (invoices.repository.generate invoicesBeside .mysql "invoice_seq"
        countBeside).map Prod.fst) ∧
    ∃ o o' after after' search,
      invoices.repository.generate invoices.catalog .mysql "invoice_seq" .empty =
        .ok (o, after) ∧
      invoices.repository.generate invoicesBeside .mysql "invoice_seq" insertionWritten =
        .ok (o', after') ∧
      search.id = "__find" ∧ search ∈ o.statements ∧ search ∈ o'.statements ∧
      after.get? ⟨"app::Invoices", "__find"⟩ = some search ∧
      after'.get? ⟨"app::Invoices", "__find"⟩ = some search := by
  have both := run_noninterference invoices.repository invoices.catalog invoicesBeside .mysql
    "invoice_seq" invoices_agree
  refine ⟨both.1 _ _ fun name => by cases name <;> decide, ?_⟩
  obtain ⟨o, after, hrun⟩ := exists_run_of_isOk
    (by decide : (invoices.buildAll .empty StatementName.all).isOk = true)
  obtain ⟨o', after', hrun'⟩ := exists_run_of_isOk
    (by decide : (Generator.buildAll { invoices with catalog := invoicesBeside }
      insertionWritten StatementName.all).isOk = true)
  have hgenerate := (generate_of_new (r := .empty) invoices_new).trans hrun
  have hgenerate' := (generate_of_new (r := insertionWritten) invoicesBeside_new).trans hrun'
  obtain ⟨hsame, hstatements⟩ :=
    both.2 _ _ _ _ _ _ hgenerate hgenerate' .find (by decide) (by decide)
  obtain ⟨search, hsearch, hid, _⟩ := exists_made_of_generates hrun
    (by decide : invoices.Generates .empty .find)
  have hget := (get?_after_run hrun (k := ⟨"app::Invoices", "__find"⟩)).mpr
    (.inr ⟨hsearch, congrArg (StatementKey.mk "app::Invoices") hid.symm⟩)
  exact ⟨_, _, _, _, search, hgenerate, hgenerate', hid, hsearch,
    (hstatements search hid).mp hsearch, hget, hsame.symm.trans hget⟩

end Generator

end EntityMapping
