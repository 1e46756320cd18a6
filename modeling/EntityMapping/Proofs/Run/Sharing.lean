import EntityMapping.Proofs.Run.Dependence
import EntityMapping.Proofs.Run.InPlace
import Mathlib.Data.List.Perm.Basic

/-!
# Generators that share a registry

Several generators run one after the other on one registry.  A run reads and writes only the
namespace of its own repository, and a failed run writes nothing, so generators of different
namespaces do not notice each other.

Main results:

- `Generator.get?_attempt_of_ne`: a run leaves the other namespaces alone.
- `Generator.attempt_congr`: a run depends on its own namespace alone.
- `Generator.attemptAll_perm`: generators of different namespaces may run in any order.
-/

namespace EntityMapping

/-- Two registries hold the same statements in a namespace. -/
def Registry.AgreeIn (r r' : Registry) (namespaceName : String) : Prop :=
  ∀ k : StatementKey, k.namespaceName = namespaceName → r.get? k = r'.get? k

/-- A registry agrees with itself. -/
theorem Registry.AgreeIn.refl (r : Registry) (namespaceName : String) :
    r.AgreeIn r namespaceName := fun _ _ => rfl

/-- Agreement in a namespace is passed on. -/
theorem Registry.AgreeIn.trans {r₁ r₂ r₃ : Registry} {namespaceName : String}
    (h : r₁.AgreeIn r₂ namespaceName) (h' : r₂.AgreeIn r₃ namespaceName) :
    r₁.AgreeIn r₃ namespaceName := fun k hk => (h k hk).trans (h' k hk)

namespace Generator

/-! ## Runs on a registry that others use -/

/-- Run on a registry that others use: the result, and the registry as the run leaves it, also
after a failure. -/
def attempt (g : Generator) (r : Registry) : Except MappingError Outcome × Registry :=
  match g.runInPlace r with
  | .ok o after => (.ok o, after)
  | .error e after => (.error e, after)

/-- Run generators one after the other on one registry. -/
def attemptAll : List Generator → Registry → List (Except MappingError Outcome) × Registry
  | [], r => ([], r)
  | g :: rest, r =>
    let (result, next) := g.attempt r
    let (results, final) := attemptAll rest next
    (result :: results, final)

variable {g : Generator} {r r' : Registry}

/-- What a run in place does, by what is built: it registers that, and nothing if the building
fails. -/
theorem attempt_eq (g : Generator) (r : Registry) :
    g.attempt r =
      match g.buildAll r StatementName.all with
      | .ok built => (.ok ⟨g.repository.namespaceName, built⟩, (r.registerAll built).2)
      | .error e => (.error e, r) := by
  rw [attempt, runInPlace_eq]
  cases hbuilt : g.buildAll r StatementName.all with
  | error e => simp [run, hbuilt, bind, Except.bind]
  | ok built =>
    have hall := Registry.registerAll_of_fresh (buildAll_free hbuilt) (buildAll_distinct hbuilt)
    have hrun := run_eq_ok_iff.mpr ⟨built, hbuilt, rfl, rfl⟩
    rw [hrun, hall]

/-- A run leaves the other namespaces alone. -/
theorem get?_attempt_of_ne {k : StatementKey} (hk : k.namespaceName ≠ g.repository.namespaceName) :
    (g.attempt r).2.get? k = r.get? k := by
  rw [attempt_eq]
  cases hbuilt : g.buildAll r StatementName.all with
  | error e => rfl
  | ok built =>
    have hforeign : built.find? (·.key == k) = none := by
      rw [List.find?_eq_none]
      intro s hs hkey
      have hns : s.key.namespaceName = g.repository.namespaceName :=
        buildAll_namespace hbuilt s hs
      have heq : s.key = k := by simpa using hkey
      exact hk (heq ▸ hns)
    simp only [Registry.get?_registerAll, hforeign, Option.or_none]

/-- A run depends on its own namespace alone, in its result and in what it leaves there. -/
theorem attempt_congr (h : r.AgreeIn r' g.repository.namespaceName) :
    (g.attempt r).1 = (g.attempt r').1 ∧
      (g.attempt r).2.AgreeIn (g.attempt r').2 g.repository.namespaceName := by
  have htaken : ∀ name, g.taken r name = g.taken r' name := by
    intro name
    simp only [taken, SortedMap.contains]
    rw [h _ rfl]
  have hbuilt : g.buildAll r' StatementName.all = g.buildAll r StatementName.all :=
    buildAll_congr (fun _ _ _ => rfl) htaken StatementName.all
  rw [attempt_eq, attempt_eq, hbuilt]
  cases g.buildAll r StatementName.all with
  | error e => exact ⟨rfl, h⟩
  | ok built =>
    refine ⟨rfl, ?_⟩
    intro k hk
    simp only [Registry.get?_registerAll]
    rw [h k hk]

/-! ## Runs one after the other -/

/-- Generators leave every namespace alone that is not theirs. -/
theorem get?_attemptAll_of_forall_ne {gs : List Generator} {k : StatementKey}
    (hk : ∀ g ∈ gs, k.namespaceName ≠ g.repository.namespaceName) :
    (attemptAll gs r).2.get? k = r.get? k := by
  induction gs generalizing r with
  | nil => rfl
  | cons g rest ih =>
    rw [attemptAll]
    simp only
    rw [ih fun other hother => hk other (List.mem_cons_of_mem g hother)]
    exact get?_attempt_of_ne (hk g List.mem_cons_self)

/-- Among generators of different namespaces each has the result that it has alone. -/
theorem attemptAll_results {gs : List Generator}
    (distinct : (gs.map fun g => g.repository.namespaceName).Nodup)
    (hagree : ∀ g ∈ gs, r.AgreeIn r' g.repository.namespaceName) :
    (attemptAll gs r').1 = gs.map fun g => (g.attempt r).1 := by
  induction gs generalizing r' with
  | nil => rfl
  | cons g rest ih =>
    rw [List.map_cons, List.nodup_cons] at distinct
    rw [attemptAll, List.map_cons]
    simp only
    rw [(attempt_congr (hagree g List.mem_cons_self)).1]
    congr 1
    -- The first run leaves the namespaces of the others as they were.
    apply ih distinct.2
    intro other hother k hk
    have hne : k.namespaceName ≠ g.repository.namespaceName := by
      intro heq
      exact distinct.1 (heq ▸ hk ▸ List.mem_map_of_mem hother)
    rw [get?_attempt_of_ne hne]
    exact hagree other (List.mem_cons_of_mem g hother) k hk

/-- Among generators of different namespaces each leaves in its own what it leaves alone. -/
theorem attemptAll_agreeIn {gs : List Generator}
    (distinct : (gs.map fun g => g.repository.namespaceName).Nodup) (hg : g ∈ gs)
    (hagree : r.AgreeIn r' g.repository.namespaceName) :
    (g.attempt r).2.AgreeIn (attemptAll gs r').2 g.repository.namespaceName := by
  induction gs generalizing r' with
  | nil => cases hg
  | cons first rest ih =>
    rw [List.map_cons, List.nodup_cons] at distinct
    rw [attemptAll]
    simp only
    rcases List.mem_cons.mp hg with rfl | hrest
    · -- The others do not touch the namespace of the first.
      apply (attempt_congr hagree).2.trans
      intro k hk
      rw [get?_attemptAll_of_forall_ne]
      intro other hother heq
      exact distinct.1 (hk ▸ heq ▸ List.mem_map_of_mem hother)
    · apply ih distinct.2 hrest
      intro k hk
      have hne : k.namespaceName ≠ first.repository.namespaceName := by
        intro heq
        exact distinct.1 (heq ▸ hk ▸ List.mem_map_of_mem hrest)
      rw [get?_attempt_of_ne hne]
      exact hagree k hk

/-- Generators of different namespaces may run in any order on one registry: it ends up the
same, and each generator succeeds or fails exactly as it does alone. -/
theorem attemptAll_perm {gs gs' : List Generator} (r : Registry)
    (distinct : (gs.map fun g => g.repository.namespaceName).Nodup) (hperm : gs.Perm gs') :
    (attemptAll gs' r).1 = gs'.map (fun g => (g.attempt r).1) ∧
      (attemptAll gs' r).2 = (attemptAll gs r).2 := by
  have distinct' : (gs'.map fun g => g.repository.namespaceName).Nodup :=
    (hperm.map _).nodup_iff.mp distinct
  refine ⟨attemptAll_results distinct' fun g _ => Registry.AgreeIn.refl r _, ?_⟩
  apply SortedMap.ext_get?
  intro k
  by_cases hown : ∃ g ∈ gs, k.namespaceName = g.repository.namespaceName
  · rcases hown with ⟨g, hg, hk⟩
    have halone := Registry.AgreeIn.refl r g.repository.namespaceName
    rw [← attemptAll_agreeIn distinct hg halone k hk,
      ← attemptAll_agreeIn distinct' (hperm.mem_iff.mp hg) halone k hk]
  · have hforeign : ∀ g ∈ gs, k.namespaceName ≠ g.repository.namespaceName :=
      fun g hg heq => hown ⟨g, hg, heq⟩
    rw [get?_attemptAll_of_forall_ne hforeign,
      get?_attemptAll_of_forall_ne fun g hg => hforeign g (hperm.mem_iff.mpr hg)]

/-- The invoices without the type that they embed. -/
def invoicesAstray : Generator := { invoices with catalog := .empty }

/-- Pairs and invoices in both orders, where the run of the invoices fails. -/
theorem attemptAll_perm_pairs :
    (∃ e, (invoicesAstray.attempt pairsRegistry).1 = .error e) ∧
      (attemptAll [invoicesAstray, pairs] pairsRegistry).1 =
        [(invoicesAstray.attempt pairsRegistry).1, (pairs.attempt pairsRegistry).1] ∧
      (attemptAll [invoicesAstray, pairs] pairsRegistry).2 =
        (attemptAll [pairs, invoicesAstray] pairsRegistry).2 := by
  have hperm : [pairs, invoicesAstray].Perm [invoicesAstray, pairs] := List.Perm.swap _ _ _
  have horder := attemptAll_perm pairsRegistry (by decide) hperm
  refine ⟨?_, horder.1, horder.2⟩
  have hfails : (invoicesAstray.buildAll pairsRegistry StatementName.all).isOk = false := by
    decide
  rw [attempt_eq]
  cases hbuilt : invoicesAstray.buildAll pairsRegistry StatementName.all with
  | error e => exact ⟨e, rfl⟩
  | ok built =>
    rw [hbuilt] at hfails
    cases hfails

end Generator

end EntityMapping
