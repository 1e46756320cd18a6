import EntityMapping.Proofs.Run.Repetition
import EntityMapping.Proofs.Text.LastPart
import EntityMapping.Result.Query

/-!
# Qualified ids

A registry has its statements under pairs of a namespace and an id, but a query asks for one by
a single text, with a dot between the two.  Namespaces may have dots of their own.  As long as
ids have none, the last dot tells where the namespace ends, and the text stands for one pair.

Generated ids have no dot, so it is enough that the registered statements keep to that.

Main results:

- `Registry.WellNamed.useAll`: whatever happens to a registry, its ids stay without dots.
- `Registry.WellNamed.nodup_qualifiedIds`: no two statements have the same qualified id.
- `Registry.queries_reach`: a query reaches the statement with its namespace and id, and a query
  for an id with dots may reach another one.
-/

namespace EntityMapping

/-- No generated id has a dot. -/
theorem StatementName.lacks_dot_id (name : StatementName) : Lacks '.' name.id := by
  cases name <;> decide

/-- The pair of namespace and id that a query is meant for. -/
def Query.key (q : Query) : StatementKey := ⟨q.namespaceName, q.statementId⟩

/-- When the text of a query is the qualified id of a statement: the query is meant for it, or
for an id that begins with the rest of its namespace. -/
theorem Query.statement_eq_iff {q : Query} {s : Statement} (hs : Lacks '.' s.id) :
    q.statement = s.qualifiedId ↔ s.key = q.key ∨
      ∃ inner, s.namespaceName = q.namespaceName ++ "." ++ inner ∧
        q.statementId = inner ++ "." ++ s.id := by
  rw [Query.statement, Statement.qualifiedId, joined_eq_iff hs, Statement.key, Query.key,
    StatementKey.mk.injEq]

/-- If the query is for an id without dots, it is meant for the statement. -/
theorem Query.statement_eq_iff_key {q : Query} {s : Statement} (hq : Lacks '.' q.statementId)
    (hs : Lacks '.' s.id) : q.statement = s.qualifiedId ↔ s.key = q.key := by
  rw [Query.statement, Statement.qualifiedId, joined_inj hq hs, Statement.key, Query.key,
    StatementKey.mk.injEq]

/-- Statements whose ids have no dots are told apart by their qualified ids. -/
theorem Statement.qualifiedId_inj {s t : Statement} (hs : Lacks '.' s.id)
    (ht : Lacks '.' t.id) : s.qualifiedId = t.qualifiedId ↔ t.key = s.key := by
  rw [Statement.qualifiedId, Statement.qualifiedId, joined_inj hs ht, Statement.key,
    Statement.key, StatementKey.mk.injEq]

namespace Registry

variable {r : Registry} {s : Statement}

/-- The registered statements, by namespace and id. -/
def statements (r : Registry) : List Statement := r.entries.map (·.2)

/-- A statement is listed exactly if it is found under its key. -/
theorem mem_statements_iff (h : r.Placed) : s ∈ r.statements ↔ r.get? s.key = some s := by
  rw [statements, List.mem_map]
  constructor
  · rintro ⟨⟨k, t⟩, hentry, rfl⟩
    have hfound := (r.mem_entries_iff k t).mp hentry
    rwa [h k t hfound]
  · intro hfound
    exact ⟨(s.key, s), (r.mem_entries_iff s.key s).mpr hfound, rfl⟩

/-- The keys of the registered statements are those of the registry. -/
theorem map_key_statements (h : r.Placed) : r.statements.map Statement.key = r.keys := by
  rw [statements, SortedMap.keys, List.map_map]
  apply List.map_congr_left
  rintro ⟨k, t⟩ hentry
  exact h k t ((r.mem_entries_iff k t).mp hentry)

/-- The last thing that happened to a registry. -/
theorem useAll_concat (r : Registry) (uses : List Use) (u : Use) :
    r.useAll (uses ++ [u]) = (r.useAll uses).use u := List.foldl_concat ..

/-- A run leaves the other namespaces alone. -/
theorem get?_use_run_of_ne {g : Generator} {k : StatementKey}
    (hk : k.namespaceName ≠ g.repository.namespaceName) :
    (r.use (.run g)).get? k = r.get? k := Generator.get?_attempt_of_ne hk

/-! ## Ids without dots -/

/-- Every statement is under its own namespace and id, and its id has no dot. -/
structure WellNamed (r : Registry) : Prop where
  placed : r.Placed
  lacks_dot : ∀ k s, r.get? k = some s → Lacks '.' s.id

namespace WellNamed

/-- The empty registry is well named. -/
theorem empty : WellNamed .empty where
  placed := placed_empty
  lacks_dot := by
    intro k s h
    cases h

/-- Registering an id without dots keeps a registry well named. -/
theorem register (h : r.WellNamed) (hs : Lacks '.' s.id) : (r.register s).2.WellNamed where
  placed := h.placed.register s
  lacks_dot := by
    intro k t hfound
    rw [get?_register] at hfound
    split at hfound
    · cases hfound
      exact hs
    · exact h.lacks_dot k t hfound

/-- So does registering any number of them. -/
theorem registerAll (h : r.WellNamed) {ss : List Statement} (hss : ∀ s ∈ ss, Lacks '.' s.id) :
    (r.registerAll ss).2.WellNamed := by
  induction ss generalizing r with
  | nil => exact h
  | cons s rest ih =>
    exact ih (h.register (hss s List.mem_cons_self)) fun t ht =>
      hss t (List.mem_cons_of_mem s ht)

/-- What a run registers has generated ids, and a run that fails registers nothing. -/
theorem use (h : r.WellNamed) {u : Use} (hu : ∀ s, u = .register s → Lacks '.' s.id) :
    (r.use u).WellNamed := by
  cases u with
  | register s => exact h.register (hu s rfl)
  | run g =>
    rw [Registry.use, Generator.attempt_eq]
    cases hbuilt : g.buildAll r StatementName.all with
    | error e => exact h
    | ok built =>
      apply h.registerAll
      intro s hs
      obtain ⟨name, -, -, hplace⟩ := Generator.buildAll_place hbuilt hs
      have hid : s.id = name.id := congrArg StatementKey.id hplace
      exact hid ▸ name.lacks_dot_id

/-- Whatever happens to a registry, its ids stay without dots. -/
theorem useAll (h : r.WellNamed) {uses : List Use}
    (huses : ∀ s, Use.register s ∈ uses → Lacks '.' s.id) : (r.useAll uses).WellNamed := by
  induction uses generalizing r with
  | nil => exact h
  | cons u rest ih =>
    refine ih (h.use fun s hs => huses s ?_) fun s hs => huses s (List.mem_cons_of_mem u hs)
    exact hs ▸ List.mem_cons_self

/-! ## Statements by their qualified ids -/

/-- No statement of a well named registry has a dot in its id. -/
theorem lacks_dot_of_mem (h : r.WellNamed) (hs : s ∈ r.statements) : Lacks '.' s.id :=
  h.lacks_dot s.key s ((mem_statements_iff h.placed).mp hs)

/-- No two statements have the same qualified id. -/
theorem nodup_qualifiedIds (h : r.WellNamed) :
    (r.statements.map Statement.qualifiedId).Nodup := by
  have hkeys : (r.statements.map Statement.key).Nodup := by
    rw [map_key_statements h.placed]
    exact r.keys_nodup
  refine List.Nodup.map_on ?_ hkeys.of_map
  intro s hs t ht heq
  have hkey : t.key = s.key :=
    (Statement.qualifiedId_inj (h.lacks_dot_of_mem hs) (h.lacks_dot_of_mem ht)).mp heq
  exact List.inj_on_of_nodup_map hkeys hs ht hkey.symm

/-- A query for an id without dots reaches a statement just if it is registered under the
namespace and the id of the query. -/
theorem reaches_iff (h : r.WellNamed) {q : Query} (hq : Lacks '.' q.statementId) :
    s ∈ r.statements ∧ q.statement = s.qualifiedId ↔ r.get? q.key = some s := by
  constructor
  · rintro ⟨hs, hsame⟩
    rw [← (Query.statement_eq_iff_key hq (h.lacks_dot_of_mem hs)).mp hsame]
    exact (mem_statements_iff h.placed).mp hs
  · intro hfound
    have hkey : s.key = q.key := h.placed q.key s hfound
    have hs : s ∈ r.statements := (mem_statements_iff h.placed).mpr (hkey ▸ hfound)
    exact ⟨hs, (Query.statement_eq_iff_key hq (h.lacks_dot_of_mem hs)).mpr hkey⟩

end WellNamed

/-- Where all statement ids are without dots, the statements of a registry have different
qualified ids, and the text of a query is one of them just if a statement is registered under
the namespace and the id of the query, and then it is that of this statement.  An id with dots
reaches a statement of a deeper namespace just if it spells the rest of that namespace. -/
theorem queries_reach {uses : List Use}
    (hids : ∀ s, Use.register s ∈ uses → Lacks '.' s.id) :
    let r := Registry.useAll .empty uses
    (r.statements.map Statement.qualifiedId).Nodup ∧
      (∀ q : Query, Lacks '.' q.statementId →
        ((∃ s ∈ r.statements, q.statement = s.qualifiedId) ↔
            ∃ s ∈ r.statements, s.namespaceName = q.namespaceName ∧ s.id = q.statementId) ∧
          ∀ s, s ∈ r.statements ∧ q.statement = s.qualifiedId ↔ r.get? q.key = some s) ∧
      ∀ q : Query, ∀ s ∈ r.statements, q.statement = s.qualifiedId ↔
        s.key = q.key ∨ ∃ inner, s.namespaceName = q.namespaceName ++ "." ++ inner ∧
          q.statementId = inner ++ "." ++ s.id := by
  intro r
  have h : r.WellNamed := WellNamed.empty.useAll hids
  refine ⟨h.nodup_qualifiedIds, ?_, ?_⟩
  · intro q hq
    refine ⟨?_, fun s => h.reaches_iff hq⟩
    apply exists_congr
    intro s
    apply and_congr_right
    intro hs
    rw [Query.statement_eq_iff_key hq (h.lacks_dot_of_mem hs), Statement.key, Query.key,
      StatementKey.mk.injEq]
  · intro q s hs
    exact Query.statement_eq_iff (h.lacks_dot_of_mem hs)

/-- The orders of a shop, and the open ones in a namespace that goes on with their name. -/
def orders : Statement := .plain .select "shop" "orders" (.text "select 1")

@[inherit_doc orders]
def openOrders : Statement := .plain .select "shop.orders" "open" (.text "select 2")

/-- Both are registered, and a run follows. -/
def shopUses : List Use :=
  [.register openOrders, .register orders] ++ [.run Generator.pairs]

/-- The open orders are reached through their namespace and id only, unless an id has a dot. -/
theorem queries_reach_openOrders :
    (∀ s, Use.register s ∈ shopUses → Lacks '.' s.id) ∧
      ((useAll .empty shopUses).statements.map Statement.qualifiedId).Nodup ∧
      (∃ s ∈ (useAll .empty shopUses).statements,
        Query.statement ⟨"shop.orders", "open", false, .any⟩ = s.qualifiedId) ∧
      (¬ ∃ s ∈ (useAll .empty shopUses).statements,
        Query.statement ⟨"shop", "open", false, .any⟩ = s.qualifiedId) ∧
      Query.statement ⟨"shop", "orders.open", false, .any⟩ = openOrders.qualifiedId := by
  have hids : ∀ s, Use.register s ∈ shopUses → Lacks '.' s.id := by
    intro s hs
    simp only [shopUses, List.mem_append, List.mem_cons, Use.register.injEq, reduceCtorEq,
      List.not_mem_nil, or_false] at hs
    rcases hs with rfl | rfl <;> decide
  obtain ⟨hnodup, hreach, hdeeper⟩ := queries_reach hids
  have hkept (k : StatementKey) (hk : k.namespaceName ≠ "app::Pairs") :
      (useAll .empty shopUses).get? k =
        (useAll .empty [.register openOrders, .register orders]).get? k := by
    rw [shopUses, useAll_concat, get?_use_run_of_ne hk]
  have hopen := ((hreach ⟨"shop.orders", "open", false, .any⟩ (by decide)).2 openOrders).mpr
    ((hkept _ (by decide)).trans (by decide))
  refine ⟨hids, hnodup, ⟨openOrders, hopen⟩, ?_, ?_⟩
  · rintro ⟨s, hs⟩
    have hfound := ((hreach ⟨"shop", "open", false, .any⟩ (by decide)).2 s).mp hs
    have hfree : (useAll .empty shopUses).get? ⟨"shop", "open"⟩ = none :=
      (hkept _ (by decide)).trans (by decide)
    exact absurd (hfree.symm.trans hfound) (by simp)
  · exact (hdeeper ⟨"shop", "orders.open", false, .any⟩ openOrders hopen.1).mpr
      (.inr ⟨"orders", rfl, rfl⟩)

end Registry

end EntityMapping
