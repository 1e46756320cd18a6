import EntityMapping.Entity.Catalog
import Mathlib.Data.Fintype.Card
import Mathlib.Data.Set.Finite.Basic
import Mathlib.Logic.Relation

/-!
# Levels of embedding

An embedded property stands for the columns of another entity, which may embed further ones.
The leaves of an entity are the properties at the ends of all chains of embedded properties.
Embedding that runs in no circle ends after finitely many levels, so every entity has leaves.

Main results:

- `Catalog.Acyclic.wellFounded`: without circles, embedding is well-founded.
- `Catalog.Leaves.unique`, `Catalog.exists_leaves`: an entity has exactly one list of leaves.
-/

namespace EntityMapping

/-! ## Leaves -/

/-- A property that is not embedded, with its path from an entity. -/
structure Leaf where
  path : String
  property : Property

/-- The leaf seen from the owner of its entity. -/
def Leaf.under (owner : String) (l : Leaf) : Leaf := ⟨owner ++ "." ++ l.path, l.property⟩

namespace Catalog

/-- An entity embeds the entities of its embedded properties. -/
def Embeds (c : Catalog) (outer inner : Entity) : Prop :=
  ∃ p ∈ outer.properties, p.isEmbedded = true ∧ c.get? p.typeName = some inner

/-- No entity embeds itself, be it through others. -/
def Acyclic (c : Catalog) : Prop := ∀ e, ¬ Relation.TransGen c.Embeds e e

/-- The catalog holds the types of all embedded properties of the entity, at every level. -/
def Complete (c : Catalog) (e : Entity) : Prop :=
  ∀ inner, Relation.ReflTransGen c.Embeds e inner →
    ∀ p ∈ inner.properties, p.isEmbedded = true → c.contains p.typeName = true

/-- The leaves of properties, in order: a property that is not embedded is a leaf, and an
embedded one gives the leaves of its entity under its own name. -/
inductive Leaves (c : Catalog) : List Property → List Leaf → Prop
  | nil : Leaves c [] []
  | own {p : Property} {rest : List Property} {others : List Leaf} :
    p.isEmbedded = false → Leaves c rest others → Leaves c (p :: rest) (⟨p.name, p⟩ :: others)
  | embedded {p : Property} {e : Entity} {rest : List Property} {inner others : List Leaf} :
    p.isEmbedded = true → c.get? p.typeName = some e → Leaves c e.properties inner →
      Leaves c rest others → Leaves c (p :: rest) (inner.map (Leaf.under p.name) ++ others)

variable {c : Catalog} {e : Entity} {ps : List Property}

/-- There is at most one list of leaves. -/
theorem Leaves.unique {first second : List Leaf} (h : c.Leaves ps first)
    (h' : c.Leaves ps second) : first = second := by
  induction h generalizing second with
  | nil =>
    cases h'
    rfl
  | own hown _ ih =>
    cases h' with
    | own _ hrest => rw [ih hrest]
    | embedded hembedded =>
      rw [hown] at hembedded
      cases hembedded
  | embedded hembedded hfound _ _ ihInner ihRest =>
    cases h' with
    | own hown =>
      rw [hembedded] at hown
      cases hown
    | embedded _ hfound' hinner hrest =>
      rw [hfound] at hfound'
      cases hfound'
      rw [ihInner hinner, ihRest hrest]

/-! ## Without circles -/

/-- The entities of the catalog are finitely many. -/
theorem finite_held (c : Catalog) : {e : Entity | ∃ typeName, c.get? typeName = some e}.Finite := by
  refine (c.entries.map Prod.snd).finite_toSet.subset ?_
  rintro e ⟨typeName, hfound⟩
  have hentry : (typeName, e) ∈ c.entries := (SortedMap.mem_entries_iff c typeName e).mpr hfound
  exact List.mem_map.mpr ⟨_, hentry, rfl⟩

/-- Without circles, embedding is well-founded. -/
theorem Acyclic.wellFounded (h : c.Acyclic) :
    WellFounded fun inner outer : Entity => c.Embeds outer inner := by
  let Held := {e : Entity // ∃ typeName, c.get? typeName = some e}
  let within (inner outer : Held) : Prop := c.Embeds outer.val inner.val
  have : Finite Held := c.finite_held
  have hacyclic : ∀ e : Held, ¬ Relation.TransGen within e e := by
    intro e hcircle
    refine h e.val (Relation.transGen_swap.mp ?_)
    exact hcircle.lift (fun held : Held => held.val) fun _ _ hwithin => hwithin
  have : IsTrans Held (Relation.TransGen within) := ⟨fun _ _ _ => Relation.TransGen.trans⟩
  have : Std.Irrefl (Relation.TransGen within) := ⟨hacyclic⟩
  have hheld : WellFounded within :=
    Subrelation.wf Relation.TransGen.single (Finite.wellFounded_of_trans_of_irrefl _)
  -- An entity that is embedded is held by the catalog, so only the first step may start outside.
  have hacc : ∀ e : Held, Acc (fun inner outer => c.Embeds outer inner) e.val := by
    intro e
    induction e using hheld.induction with
    | _ e ih =>
      refine Acc.intro _ fun inner hinner => ?_
      obtain ⟨p, _, _, hfound⟩ := id hinner
      exact ih ⟨inner, p.typeName, hfound⟩ hinner
  refine ⟨fun e => Acc.intro e fun inner hinner => ?_⟩
  obtain ⟨p, _, _, hfound⟩ := id hinner
  exact hacc ⟨inner, p.typeName, hfound⟩

/-- A measure that falls from an entity to what it embeds excludes circles. -/
theorem acyclic_of_measure (measure : Entity → Nat)
    (h : ∀ outer inner, c.Embeds outer inner → measure inner < measure outer) : c.Acyclic := by
  intro e hcircle
  have hfalls : ∀ {outer inner}, Relation.TransGen c.Embeds outer inner →
      measure inner < measure outer := by
    intro outer inner hchain
    induction hchain with
    | single hstep => exact h _ _ hstep
    | tail _ hstep ih => exact (h _ _ hstep).trans ih
  exact Nat.lt_irrefl _ (hfalls hcircle)

/-- What an entity embeds is as complete as the entity. -/
theorem Complete.of_embeds {inner : Entity} (h : c.Complete e) (hinner : c.Embeds e inner) :
    c.Complete inner :=
  fun deeper hdeeper => h deeper (hdeeper.head hinner)

/-- Properties whose embedded entities have leaves have leaves. -/
theorem exists_leaves_of_embedded (h : ∀ p ∈ ps, p.isEmbedded = true →
    ∃ e inner, c.get? p.typeName = some e ∧ c.Leaves e.properties inner) :
    ∃ leaves, c.Leaves ps leaves := by
  induction ps with
  | nil => exact ⟨[], .nil⟩
  | cons p rest ih =>
    obtain ⟨others, hothers⟩ := ih fun q hq => h q (List.mem_cons_of_mem _ hq)
    cases hp : p.isEmbedded with
    | false => exact ⟨_, .own hp hothers⟩
    | true =>
      obtain ⟨e, inner, hfound, hinner⟩ := h p List.mem_cons_self hp
      exact ⟨_, .embedded hp hfound hinner hothers⟩

/-- Without circles, and if all embedded types are there, every entity has leaves. -/
theorem exists_leaves (hacyclic : c.Acyclic) (hcomplete : c.Complete e) :
    ∃ leaves, c.Leaves e.properties leaves := by
  induction e using hacyclic.wellFounded.induction with
  | _ e ih =>
    refine exists_leaves_of_embedded fun p hp hembedded => ?_
    have hheld : c.contains p.typeName = true := hcomplete e .refl p hp hembedded
    obtain ⟨inner, hfound⟩ := Option.isSome_iff_exists.mp hheld
    have hinner : c.Embeds e inner := ⟨p, hp, hembedded, hfound⟩
    obtain ⟨leaves, hleaves⟩ := ih inner hinner (hcomplete.of_embeds hinner)
    exact ⟨inner, leaves, hfound, hleaves⟩

end Catalog

end EntityMapping
