import EntityMapping.Proofs.Run.Effect
import Mathlib.Data.Finset.Card
import Mathlib.Data.List.Pairwise
import Mathlib.Logic.Function.Basic
import Mathlib.Logic.Relation

/-!
# Callers that register at the same time

Several callers register their statements on one registry.  Each call is one step, and the
steps of different callers come in any order.  Whatever the order, the first call with a free
key counts: every answer and every later look at the registry agrees with the one sequence of
calls that took place.

Main results:

- `Interleaving.registerAll_calls`: the calls so far had the effect of registering one list.
- `Interleaving.exists_reaches`: every order of the calls can take place.
- `Interleaving.firstWins_of_reaches`: what the answers and the registry say after any number
  of calls.
-/

namespace EntityMapping

/-- A call that registered a statement: who made it, and what it answered. -/
structure Registration (ι : Type) where
  caller : ι
  statement : Statement
  accepted : Bool

/-- Callers on one registry: what each has still to register, the calls so far, and the registry
after them. -/
structure Interleaving (ι : Type) where
  pending : ι → List Statement
  calls : List (Registration ι)
  registry : Registry

namespace Interleaving

variable {ι : Type} [DecidableEq ι]

/-- Before the first call. -/
def start (lists : ι → List Statement) (r : Registry) : Interleaving ι := ⟨lists, [], r⟩

/-- After the next call of a caller, which registers a statement and leaves the rest for later. -/
def call (x : Interleaving ι) (i : ι) (s : Statement) (rest : List Statement) : Interleaving ι where
  pending := Function.update x.pending i rest
  calls := x.calls ++ [⟨i, s, (x.registry.register s).1⟩]
  registry := (x.registry.register s).2

/-- Some caller registers its next statement. -/
inductive Step : Interleaving ι → Interleaving ι → Prop
  | call {x : Interleaving ι} {i : ι} {s : Statement} {rest : List Statement}
      (next : x.pending i = s :: rest) : Step x (x.call i s rest)

/-- Some calls take place. -/
def Reaches : Interleaving ι → Interleaving ι → Prop := Relation.ReflTransGen Step

/-- The statements that a caller has registered so far, taken in or not. -/
def made (x : Interleaving ι) (i : ι) : List Statement :=
  (x.calls.filter (·.caller = i)).map (·.statement)

/-- The statements that a caller was told were taken in. -/
def inserted (x : Interleaving ι) (i : ι) : List Statement :=
  (x.calls.filter fun c => c.caller = i ∧ c.accepted).map (·.statement)

/-! ## What one call does -/

variable {x y : Interleaving ι} {r : Registry}

/-- A call takes a statement from those that are still to be made, for its caller only. -/
theorem call_made_append_pending {i : ι} {s : Statement} {rest : List Statement}
    (next : x.pending i = s :: rest) (j : ι) :
    (x.call i s rest).made j ++ (x.call i s rest).pending j = x.made j ++ x.pending j := by
  by_cases hj : j = i
  · subst hj
    simp [call, made, next]
  · have hij : ¬ i = j := fun h => hj h.symm
    simp [call, made, hj, hij]

/-- A caller has registered a first part of its list, and the rest is pending. -/
theorem made_append_pending (h : Reaches x y) (i : ι) :
    y.made i ++ y.pending i = x.made i ++ x.pending i := by
  induction h with
  | refl => rfl
  | tail _ hstep ih =>
    cases hstep with
    | call next => rw [call_made_append_pending next, ih]

/-- No call replaces or removes an entry. -/
theorem extends_of_reaches (h : Reaches x y) : x.registry.Extends y.registry := by
  induction h with
  | refl => exact Registry.Extends.refl _
  | tail _ hstep ih =>
    cases hstep with
    | call next => exact ih.trans (Registry.extends_register _ _)

/-! ## One sequence of calls -/

/-- The calls so far had the effect of registering one list: the answers tell what was taken in,
and the registry is what that list leaves behind. -/
def Sequential (r : Registry) (x : Interleaving ι) : Prop :=
  r.registerAll (x.calls.map (·.statement)) =
    ((x.calls.filter (·.accepted)).map (·.statement), x.registry)

omit [DecidableEq ι] in
/-- Before any call the registry is as it was. -/
theorem sequential_start (lists : ι → List Statement) (r : Registry) :
    (start lists r).Sequential r := rfl

/-- One more call is one more in the sequence. -/
theorem Sequential.call (h : x.Sequential r) (i : ι) (s : Statement) (rest : List Statement) :
    (x.call i s rest).Sequential r := by
  unfold Sequential at h ⊢
  simp only [Interleaving.call, List.map_append, Registry.registerAll_append, h, List.map_cons,
    List.map_nil, Registry.registerAll, List.filter_append]
  cases (x.registry.register s).1 <;> simp

/-- The calls so far had the effect of registering one list. -/
theorem registerAll_calls {lists : ι → List Statement} (h : Reaches (start lists r) x) :
    x.Sequential r := by
  induction h with
  | refl => exact sequential_start lists r
  | tail _ hstep ih =>
    cases hstep with
    | call next => exact ih.call _ _ _

omit [DecidableEq ι] in
/-- An older entry stays, and otherwise the first call with a key counts. -/
theorem Sequential.get? (h : x.Sequential r) (k : StatementKey) :
    x.registry.get? k =
      (r.get? k).or ((x.calls.find? (·.statement.key == k)).map (·.statement)) := by
  have hget := Registry.get?_registerAll r (x.calls.map (·.statement)) k
  rw [h, List.find?_map] at hget
  exact hget

/-- Every answer so far was given to the first call with a key that was free at the start. -/
def Answered (r : Registry) (x : Interleaving ι) : Prop :=
  ∀ before c after, x.calls = before ++ c :: after →
    (c.accepted = true ↔
      r.get? c.statement.key = none ∧ ∀ d ∈ before, d.statement.key ≠ c.statement.key)

omit [DecidableEq ι] in
/-- Before any call nothing was answered. -/
theorem answered_start (lists : ι → List Statement) (r : Registry) :
    (start lists r).Answered r := by
  intro before c after h
  cases before <;> cases h

omit [DecidableEq ι] in
/-- A statement is taken in if its key was free at the start and no call had it. -/
theorem Sequential.register_iff (h : x.Sequential r) (s : Statement) :
    (x.registry.register s).1 = true ↔
      r.get? s.key = none ∧ ∀ d ∈ x.calls, d.statement.key ≠ s.key := by
  have hfree : (x.registry.register s).1 = true ↔ x.registry.get? s.key = none := by
    rw [← SortedMap.contains_eq_false_iff]
    cases hcontains : x.registry.contains s.key <;> simp [Registry.register, hcontains]
  rw [hfree, h.get?]
  cases r.get? s.key with
  | some old => simp
  | none => simp [List.find?_eq_none]

/-- One more call is answered by the registry as it is. -/
theorem Answered.call (h : x.Answered r) (hseq : x.Sequential r) (i : ι) (s : Statement)
    (rest : List Statement) : (x.call i s rest).Answered r := by
  intro before c after hsplit
  rcases List.eq_nil_or_concat after with rfl | ⟨earlier, last, rfl⟩
  · -- The call that was just made.
    have hlast : x.calls = before ∧ (⟨i, s, (x.registry.register s).1⟩ : Registration ι) = c := by
      simpa [Interleaving.call] using List.append_inj' hsplit rfl
    rcases hlast with ⟨rfl, rfl⟩
    exact hseq.register_iff s
  · -- An older call.
    have hmade : x.calls ++ [⟨i, s, (x.registry.register s).1⟩] =
        (before ++ c :: earlier) ++ [last] := hsplit.trans (by simp)
    exact h before c earlier (List.append_inj' hmade rfl).1

/-- Whatever the order, the answers are those of one sequence of calls. -/
theorem answered_of_reaches {lists : ι → List Statement} (h : Reaches (start lists r) x) :
    x.Answered r := by
  induction h with
  | refl => exact answered_start lists r
  | tail hreach hstep ih =>
    cases hstep with
    | call next => exact ih.call (registerAll_calls hreach) _ _ _

/-! ## Every order can take place -/

/-- Calls in an order in which every caller keeps to its own list. -/
theorem exists_reaches_from (order : List (ι × Statement)) (x : Interleaving ι)
    (horder : ∀ i, (order.filter (·.1 = i)).map (·.2) = x.pending i) :
    ∃ y, Reaches x y ∧
      y.calls.map (fun c => (c.caller, c.statement)) =
        x.calls.map (fun c => (c.caller, c.statement)) ++ order ∧
      ∀ i, y.pending i = [] := by
  induction order generalizing x with
  | nil => exact ⟨x, .refl, by simp, fun i => (horder i).symm⟩
  | cons first rest ih =>
    rcases first with ⟨i, s⟩
    have next : x.pending i = s :: (rest.filter (·.1 = i)).map (·.2) := by
      rw [← horder i]
      simp
    have hrest : ∀ j, (rest.filter (·.1 = j)).map (·.2) =
        (x.call i s ((rest.filter (·.1 = i)).map (·.2))).pending j := by
      intro j
      by_cases hj : j = i
      · subst hj
        simp [call]
      · have hij : ¬ i = j := fun h => hj h.symm
        simpa [call, hj, hij] using horder j
    rcases ih _ hrest with ⟨y, hreach, hcalls, hdone⟩
    refine ⟨y, hreach.head (.call next), ?_, hdone⟩
    rw [hcalls]
    simp [call]

/-- Every order of the calls, in which each caller keeps to its own list, can take place. -/
theorem exists_reaches (lists : ι → List Statement) (r : Registry)
    (order : List (ι × Statement))
    (horder : ∀ i, (order.filter (·.1 = i)).map (·.2) = lists i) :
    ∃ x, Reaches (start lists r) x ∧
      x.calls.map (fun c => (c.caller, c.statement)) = order ∧ ∀ i, x.pending i = [] := by
  simpa [start] using exists_reaches_from order (start lists r) horder

/-! ## First wins -/

/-- The first call with a free key counts, and everything that can be asked agrees with that. -/
structure FirstWins (r : Registry) (x : Interleaving ι) : Prop where
  /-- A call is answered with yes exactly if its key was free and no earlier call had it. -/
  answers : ∀ before c after, x.calls = before ++ c :: after →
    (c.accepted = true ↔
      r.get? c.statement.key = none ∧ ∀ d ∈ before, d.statement.key ≠ c.statement.key)
  /-- A look-up finds the older entry, and otherwise the first call with the key. -/
  found : ∀ k, x.registry.get? k =
    (r.get? k).or ((x.calls.find? (·.statement.key == k)).map (·.statement))
  /-- A key is taken if it was at the start or some call had it. -/
  taken : ∀ k, x.registry.contains k = true ↔
    r.contains k = true ∨ ∃ c ∈ x.calls, c.statement.key = k
  /-- Every entry of the start is still there. -/
  kept : r.Extends x.registry
  /-- Every entry is a statement under its own namespace and id. -/
  placed : x.registry.Placed
  /-- No caller is told of two statements with one key. -/
  distinct : ∀ i, ((x.inserted i).map Statement.key).Nodup
  /-- No two callers are told of statements with one key. -/
  disjoint : ∀ i j, i ≠ j → ∀ s ∈ x.inserted i, ∀ t ∈ x.inserted j, s.key ≠ t.key
  /-- The statements that callers are told of are the new entries. -/
  gained : ∀ k s, (r.get? k = none ∧ x.registry.get? k = some s) ↔
    s.key = k ∧ ∃ i, s ∈ x.inserted i
  /-- The size is the number of different keys. -/
  size : x.registry.size =
    (r.keys ++ x.calls.map (·.statement.key)).toFinset.card
  /-- A namespace lists its entries once each, by increasing id. -/
  listed : ∀ namespaceName,
    (x.registry.inNamespace namespaceName).Pairwise (fun a b => a.id < b.id) ∧
      ∀ s, s ∈ x.registry.inNamespace namespaceName ↔
        s.namespaceName = namespaceName ∧ x.registry.get? s.key = some s

/-- A caller inserted a statement exactly if one of its calls for it was accepted. -/
theorem mem_inserted_iff {i : ι} {s : Statement} :
    s ∈ x.inserted i ↔ ∃ c ∈ x.calls, c.caller = i ∧ c.accepted = true ∧ c.statement = s := by
  simp [inserted, and_assoc]

omit [DecidableEq ι] in
/-- Of two calls with one key the later one is refused. -/
theorem Answered.pairwise (h : x.Answered r) :
    x.calls.Pairwise fun c d => d.accepted = true → c.statement.key ≠ d.statement.key := by
  rw [List.pairwise_iff_getElem]
  intro m n hm hn hmn haccepted
  have hsplit : x.calls = x.calls.take n ++ x.calls[n] :: x.calls.drop (n + 1) := by simp
  apply ((h _ _ _ hsplit).mp haccepted).2
  rw [List.mem_take_iff_getElem]
  exact ⟨m, by omega, rfl⟩

omit [DecidableEq ι] in
/-- Calls that were accepted have different keys. -/
theorem Answered.key_ne (h : x.Answered r) {c d : Registration ι} (hc : c ∈ x.calls)
    (hd : d ∈ x.calls) (hcd : c ≠ d) (hcaccepted : c.accepted = true)
    (hdaccepted : d.accepted = true) : c.statement.key ≠ d.statement.key := by
  have : Std.Symm fun c d : Registration ι =>
      c.accepted = true → d.accepted = true → c.statement.key ≠ d.statement.key :=
    ⟨fun _ _ hne hda hca heq => hne hca hda heq.symm⟩
  have hboth : x.calls.Pairwise fun c d =>
      c.accepted = true → d.accepted = true → c.statement.key ≠ d.statement.key :=
    h.pairwise.imp fun hne _ hda => hne hda
  exact hboth.forall hc hd hcd hcaccepted hdaccepted

omit [DecidableEq ι] in
/-- The calls that were taken in are those that the registry gained. -/
theorem Answered.gained (h : x.Answered r) (hseq : x.Sequential r) (k : StatementKey)
    (s : Statement) :
    (r.get? k = none ∧ x.registry.get? k = some s) ↔
      s.key = k ∧ ∃ c ∈ x.calls, c.accepted = true ∧ c.statement = s := by
  rw [hseq.get?]
  constructor
  · rintro ⟨hfree, hfound⟩
    rw [hfree, Option.none_or, Option.map_eq_some_iff] at hfound
    rcases hfound with ⟨c, hc, rfl⟩
    rcases List.find?_eq_some_iff_append.mp hc with ⟨hkey, before, after, hsplit, hbefore⟩
    obtain rfl : c.statement.key = k := by simpa using hkey
    refine ⟨rfl, c, List.mem_of_find?_eq_some hc, ?_, rfl⟩
    apply (h before c after hsplit).mpr
    exact ⟨hfree, fun d hd => by simpa using hbefore d hd⟩
  · rintro ⟨rfl, c, hc, haccepted, rfl⟩
    rcases List.append_of_mem hc with ⟨before, after, hsplit⟩
    rcases (h before c after hsplit).mp haccepted with ⟨hfree, hfirst⟩
    have hnone : before.find? (·.statement.key == c.statement.key) = none := by
      simpa [List.find?_eq_none] using hfirst
    refine ⟨hfree, ?_⟩
    rw [hfree, hsplit, List.find?_append, hnone]
    simp

/-- On one registry, and however the calls of different callers come: every caller works through
its own list, no entry is ever replaced or removed, and the first call with a free key counts. -/
theorem firstWins_of_reaches {lists : ι → List Statement} (hplaced : r.Placed)
    (hreach : Reaches (start lists r) x) :
    x.FirstWins r ∧ (∀ i, x.made i ++ x.pending i = lists i) ∧
      ∀ y, Reaches x y → x.registry.Extends y.registry := by
  have hseq := registerAll_calls hreach
  have hanswered := answered_of_reaches hreach
  have hkept : r.Extends x.registry := extends_of_reaches hreach
  have hplaced' : x.registry.Placed := by
    have := hplaced.registerAll (x.calls.map (·.statement))
    rwa [hseq] at this
  have hlater := hanswered.pairwise
  have htaken : ∀ k, x.registry.contains k = true ↔
      r.contains k = true ∨ ∃ c ∈ x.calls, c.statement.key = k := by
    intro k
    simp only [SortedMap.contains, hseq.get? k, Option.isSome_or, Bool.or_eq_true,
      Option.isSome_map, List.find?_isSome, beq_iff_eq]
  refine ⟨⟨hanswered, hseq.get?, htaken, hkept, hplaced', ?_, ?_, ?_, ?_, ?_⟩, ?_, ?_⟩
  · intro i
    rw [inserted, List.map_map, List.Nodup, List.pairwise_map]
    refine (List.Pairwise.filter _ hlater).imp_of_mem ?_
    intro c d _ hd hne
    have hd' := (List.mem_filter.mp hd).2
    simp only [decide_eq_true_eq] at hd'
    exact hne hd'.2
  · intro i j hij s hs t ht hkey
    rcases mem_inserted_iff.mp hs with ⟨c, hc, rfl, hcaccepted, rfl⟩
    rcases mem_inserted_iff.mp ht with ⟨d, hd, rfl, hdaccepted, rfl⟩
    have hcd : c ≠ d := fun heq => hij (heq ▸ rfl)
    exact hanswered.key_ne hc hd hcd hcaccepted hdaccepted hkey
  · intro k s
    rw [hanswered.gained hseq]
    simp only [mem_inserted_iff]
    exact and_congr_right fun _ =>
      ⟨fun ⟨c, hc, ha, hs⟩ => ⟨c.caller, c, hc, rfl, ha, hs⟩,
        fun ⟨_, c, hc, _, ha, hs⟩ => ⟨c, hc, ha, hs⟩⟩
  · have hkeys : x.registry.keys.toFinset =
        (r.keys ++ x.calls.map (·.statement.key)).toFinset := by
      ext k
      rw [List.mem_toFinset, List.mem_toFinset, List.mem_append, Registry.mem_keys_iff,
        Registry.mem_keys_iff, htaken, List.mem_map]
    rw [← hkeys, List.toFinset_card_of_nodup x.registry.keys_nodup]
    simp [SortedMap.size, SortedMap.keys]
  · intro namespaceName
    exact ⟨Registry.inNamespace_increasing hplaced' namespaceName,
      fun s => Registry.mem_inNamespace_iff hplaced'⟩
  · intro i
    rw [made_append_pending hreach]
    rfl
  · intro y
    exact extends_of_reaches

/-- A count of pairs. -/
def pairCount (sql : String) : Statement := .plain .select "app::Pairs" "__count" (.text sql)

/-- Two callers with a count each, of which one has a search too. -/
def twoCounts : Bool → List Statement
  | true => [pairCount "select 1", Generator.handWritten]
  | false => [pairCount "select 2"]

/-- The search is in the registry already, and of the two counts the first one joins it. -/
theorem firstWins_of_reaches_twoCounts : ∃ x,
    Reaches (start twoCounts Generator.pairsRegistry) x ∧
    x.calls.map (fun c => (c.caller, c.statement)) =
      [(false, pairCount "select 2"), (true, pairCount "select 1"),
        (true, Generator.handWritten)] ∧
    x.FirstWins Generator.pairsRegistry ∧ x.registry.size = 3 := by
  obtain ⟨x, hreach, hcalls, _⟩ := exists_reaches twoCounts Generator.pairsRegistry
    [(false, pairCount "select 2"), (true, pairCount "select 1"), (true, Generator.handWritten)]
    (by decide)
  have wins := (firstWins_of_reaches (Registry.placed_empty.registerAll _) hreach).1
  have hkeys : x.calls.map (·.statement.key) =
      [(pairCount "").key, (pairCount "").key, Generator.handWritten.key] := by
    have hmade := congrArg (List.map fun made => made.2.key) hcalls
    rw [List.map_map] at hmade
    exact hmade
  refine ⟨x, hreach, hcalls, wins, ?_⟩
  rw [wins.size, hkeys]
  decide

end Interleaving

end EntityMapping
