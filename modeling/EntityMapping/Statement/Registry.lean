import EntityMapping.SortedMap
import EntityMapping.Statement.Basic

/-!
# Statement registry

Statements under their namespace and id.  The first statement of an id stays: registering
another one changes nothing.

Main results:

- `Registry.get?_register`: what a look-up finds after a registration.
- `Registry.register_of_contains`: a taken id is left alone.
-/

namespace EntityMapping

/-- The place of a statement: by namespace, then by id. -/
structure StatementKey where
  namespaceName : String
  id : String
deriving DecidableEq, Repr

/-- Keys are ordered by namespace, then by id. -/
instance : KeyOrder StatementKey where
  before a b :=
    KeyOrder.before a.namespaceName b.namespaceName ||
      (a.namespaceName == b.namespaceName && KeyOrder.before a.id b.id)
  before_irrefl a := by simp [KeyOrder.before_irrefl]
  before_trans {a b c} hab hbc := by
    simp only [Bool.or_eq_true, Bool.and_eq_true, beq_iff_eq] at *
    rcases hab with hab | ⟨hab, hid⟩ <;> rcases hbc with hbc | ⟨hbc, hid'⟩
    · exact .inl (KeyOrder.before_trans hab hbc)
    · exact .inl (hbc ▸ hab)
    · exact .inl (hab ▸ hbc)
    · exact .inr ⟨hab.trans hbc, KeyOrder.before_trans hid hid'⟩
  before_connected {a b} hab hba := by
    simp only [Bool.or_eq_false_iff, Bool.and_eq_false_iff, beq_eq_false_iff_ne] at *
    have hns := KeyOrder.before_connected hab.1 hba.1
    have hid := KeyOrder.before_connected
      (hab.2.resolve_left fun h => h hns) (hba.2.resolve_left fun h => h hns.symm)
    cases a
    cases b
    simp_all

/-- The place of a statement. -/
def Statement.key (s : Statement) : StatementKey := ⟨s.namespaceName, s.id⟩

/-- Statements by namespace and id. -/
abbrev Registry := SortedMap StatementKey Statement

namespace Registry

/-- Register a statement unless its id is taken, and tell whether it was registered. -/
def register (r : Registry) (s : Statement) : Bool × Registry :=
  if r.contains s.key then (false, r) else (true, r.insert s.key s)

/-- Register statements in order, and list those that were registered. -/
def registerAll (r : Registry) : List Statement → List Statement × Registry
  | [] => ([], r)
  | s :: rest =>
    let (inserted, next) := r.register s
    let (others, final) := registerAll next rest
    (if inserted then s :: others else others, final)

/-- The statements of a namespace, by id. -/
def inNamespace (r : Registry) (name : String) : List Statement :=
  (r.entries.filter (·.1.namespaceName == name)).map (·.2)

/-! ## Laws -/

/-- Registering under a key that is taken changes nothing. -/
theorem register_of_contains {r : Registry} {s : Statement} (h : r.contains s.key = true) :
    r.register s = (false, r) := by
  simp [register, h]

/-- After registering, a free key has the statement and every other key what it had. -/
theorem get?_register (r : Registry) (s : Statement) (k : StatementKey) :
    (r.register s).2.get? k = if k = s.key ∧ r.get? k = none then some s else r.get? k := by
  unfold register
  by_cases h : r.contains s.key = true
  · rw [if_pos h]
    by_cases hk : k = s.key
    · subst hk
      have : r.get? s.key ≠ none := by
        intro hn
        simp [SortedMap.contains, hn] at h
      simp [this]
    · simp [hk]
  · rw [if_neg h]
    by_cases hk : k = s.key
    · subst hk
      have : r.get? s.key = none := by simpa [SortedMap.contains] using h
      simp [this]
    · simp [hk]

end Registry

end EntityMapping
