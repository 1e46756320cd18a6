import EntityMapping.Statement.Registry
import Mathlib.Data.List.Nodup

/-!
# Registering several statements

What the registry holds after statements were registered one after the other, and which of
them were taken in.

Main results:

- `Registry.get?_registerAll`: an older entry stays, and otherwise the first statement of a
  key counts.
- `Registry.registerAll_of_fresh`: statements with new and different keys are all taken in.
- `Registry.extends_registerAll`: no entry is replaced or removed.
- `Registry.Placed.registerAll`: every entry stays under its own key.
- `Registry.inNamespace_increasing`: a namespace is listed in order of ids.
-/

namespace EntityMapping.Registry

/-- A statement is registered under a key that is free. -/
theorem register_of_free {r : Registry} {s : Statement} (free : r.get? s.key = none) :
    r.register s = (true, r.insert s.key s) := by
  have hcontains : r.contains s.key = false := (r.contains_eq_false_iff s.key).mpr free
  simp [register, hcontains]

/-- An older entry stays, and otherwise the first statement of a key counts. -/
theorem get?_registerAll (r : Registry) (ss : List Statement) (k : StatementKey) :
    (r.registerAll ss).2.get? k = (r.get? k).or (ss.find? (·.key == k)) := by
  induction ss generalizing r with
  | nil => simp [registerAll]
  | cons s rest ih =>
    rw [registerAll]
    simp only [ih, get?_register, List.find?_cons]
    by_cases hk : k = s.key
    · subst hk
      cases hold : r.get? s.key with
      | none => simp
      | some old => simp
    · have hne : (s.key == k) = false := by
        simpa using fun h => hk h.symm
      simp [hk, hne]

/-- Statements with new and different keys are all taken in. -/
theorem registerAll_of_fresh {r : Registry} {ss : List Statement}
    (free : ∀ s ∈ ss, r.get? s.key = none) (distinct : (ss.map Statement.key).Nodup) :
    (r.registerAll ss).1 = ss := by
  induction ss generalizing r with
  | nil => rfl
  | cons s rest ih =>
    rw [List.map_cons, List.nodup_cons] at distinct
    have hs : r.get? s.key = none := free s List.mem_cons_self
    have hrest : ∀ t ∈ rest, (r.insert s.key s).get? t.key = none := by
      intro t ht
      have hne : t.key ≠ s.key := by
        intro heq
        exact distinct.1 (heq ▸ List.mem_map_of_mem ht)
      rw [SortedMap.get?_insert, if_neg hne]
      exact free t (List.mem_cons_of_mem _ ht)
    rw [registerAll, register_of_free hs]
    simp [ih hrest distinct.2]

/-- With new and different keys the entries are the older ones and the statements. -/
theorem get?_registerAll_iff {r : Registry} {ss : List Statement} {k : StatementKey}
    {s : Statement} (free : ∀ t ∈ ss, r.get? t.key = none)
    (distinct : (ss.map Statement.key).Nodup) :
    (r.registerAll ss).2.get? k = some s ↔ r.get? k = some s ∨ s ∈ ss ∧ s.key = k := by
  rw [get?_registerAll]
  constructor
  · intro h
    rcases Option.or_eq_some_iff.mp h with hold | ⟨_, hfound⟩
    · exact .inl hold
    · exact .inr ⟨List.mem_of_find?_eq_some hfound, by simpa using List.find?_some hfound⟩
  · rintro (hold | ⟨hmem, rfl⟩)
    · simp [hold]
    · rw [free s hmem, Option.none_or]
      cases hfound : ss.find? (·.key == s.key) with
      | none => simpa using List.find?_eq_none.mp hfound s hmem
      | some t =>
        have hkey : t.key = s.key := by simpa using List.find?_some hfound
        have hts : t = s := List.inj_on_of_nodup_map distinct
          (List.mem_of_find?_eq_some hfound) hmem hkey
        rw [hts]

/-! ## Later registries -/

/-- A registry keeps every entry of an older one. -/
def Extends (r r' : Registry) : Prop :=
  ∀ k s, r.get? k = some s → r'.get? k = some s

/-- A registry extends itself. -/
theorem Extends.refl (r : Registry) : r.Extends r := fun _ _ h => h

/-- A registry extends all that were extended before. -/
theorem Extends.trans {r₁ r₂ r₃ : Registry} (h : r₁.Extends r₂) (h' : r₂.Extends r₃) :
    r₁.Extends r₃ := fun k s hold => h' k s (h k s hold)

/-- A registration replaces and removes no entry. -/
theorem extends_register (r : Registry) (s : Statement) : r.Extends (r.register s).2 := by
  intro k old hold
  rw [get?_register, if_neg]
  · exact hold
  · rintro ⟨_, hfree⟩
    rw [hold] at hfree
    cases hfree

/-- Registrations replace and remove no entry. -/
theorem extends_registerAll (r : Registry) (ss : List Statement) :
    r.Extends (r.registerAll ss).2 := by
  intro k old hold
  rw [get?_registerAll, hold, Option.some_or]

/-- Registering two lists one after the other. -/
theorem registerAll_append (r : Registry) (ss ts : List Statement) :
    r.registerAll (ss ++ ts) =
      ((r.registerAll ss).1 ++ ((r.registerAll ss).2.registerAll ts).1,
        ((r.registerAll ss).2.registerAll ts).2) := by
  induction ss generalizing r with
  | nil => rfl
  | cons s rest ih =>
    simp only [List.cons_append, registerAll, ih]
    split <;> rfl

/-! ## Entries under their own key -/

/-- Every entry is a statement under its own namespace and id. -/
def Placed (r : Registry) : Prop := ∀ k s, r.get? k = some s → s.key = k

/-- The empty registry has every statement in its place. -/
theorem placed_empty : Placed .empty := by
  intro k s h
  cases h

/-- Registering puts a statement in its place. -/
theorem Placed.register {r : Registry} (h : r.Placed) (s : Statement) :
    (r.register s).2.Placed := by
  intro k t hfound
  rw [get?_register] at hfound
  split at hfound
  · next hnew =>
    cases hfound
    exact hnew.1.symm
  · exact h k t hfound

/-- Registering statements puts each in its place. -/
theorem Placed.registerAll {r : Registry} (h : r.Placed) (ss : List Statement) :
    (r.registerAll ss).2.Placed := by
  induction ss generalizing r with
  | nil => exact h
  | cons s rest ih => exact ih (h.register s)

/-- The statements of a namespace are its entries. -/
theorem mem_inNamespace_iff {r : Registry} (h : r.Placed) {namespaceName : String}
    {s : Statement} :
    s ∈ r.inNamespace namespaceName ↔
      s.namespaceName = namespaceName ∧ r.get? s.key = some s := by
  unfold inNamespace
  rw [List.mem_map]
  constructor
  · rintro ⟨⟨k, t⟩, hmem, rfl⟩
    rcases List.mem_filter.mp hmem with ⟨hentry, hns⟩
    have hfound := (r.mem_entries_iff k t).mp hentry
    obtain rfl : t.key = k := h k t hfound
    exact ⟨by simpa [Statement.key] using hns, hfound⟩
  · rintro ⟨rfl, hfound⟩
    refine ⟨(s.key, s), List.mem_filter.mpr ⟨?_, ?_⟩, rfl⟩
    · exact (r.mem_entries_iff s.key s).mpr hfound
    · simp [Statement.key]

/-- The statements of a namespace are in strictly increasing order of their ids. -/
theorem inNamespace_increasing {r : Registry} (h : r.Placed) (namespaceName : String) :
    (r.inNamespace namespaceName).Pairwise fun a b => a.id < b.id := by
  unfold inNamespace
  rw [List.pairwise_map]
  refine List.Pairwise.imp_of_mem ?_ (List.Pairwise.filter _ r.sorted)
  rintro ⟨k, s⟩ ⟨j, t⟩ hs ht hbefore
  rcases List.mem_filter.mp hs with ⟨hs, hk⟩
  rcases List.mem_filter.mp ht with ⟨ht, hj⟩
  obtain rfl : s.key = k := h k s ((r.mem_entries_iff k s).mp hs)
  obtain rfl : t.key = j := h j t ((r.mem_entries_iff j t).mp ht)
  have hsame : s.namespaceName = t.namespaceName := by
    rw [beq_iff_eq] at hk hj
    exact hk.trans hj.symm
  simpa [KeyOrder.before, Statement.key, hsame] using hbefore

/-! ## Keys -/

/-- The keys of a registry are those that it contains. -/
theorem mem_keys_iff (r : Registry) (k : StatementKey) :
    k ∈ r.keys ↔ r.contains k = true := by
  rw [SortedMap.contains, Option.isSome_iff_exists, SortedMap.keys, List.mem_map]
  constructor
  · rintro ⟨⟨k, s⟩, hentry, rfl⟩
    exact ⟨s, (r.mem_entries_iff k s).mp hentry⟩
  · rintro ⟨s, hs⟩
    exact ⟨(k, s), (r.mem_entries_iff k s).mpr hs, rfl⟩

/-- A registry has each key once. -/
theorem keys_nodup (r : Registry) : r.keys.Nodup := r.sorted.nodup_keys

end EntityMapping.Registry
