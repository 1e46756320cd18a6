import EntityMapping.Proofs.Keys.Equalities
import EntityMapping.Proofs.Search.Tokens

/-!
# Rows and their keys

What a condition on keys says of a row.  A row has values for the expressions in which its
columns occur; an expression is equal to a value, or to one of the values of a list.  The type
as which a value is bound does not matter.

Main results:

- `TableRow.satisfies_equality`, `TableRow.satisfies_list`: the comparisons of a row.
- `Generator.meets_matchSql`: the condition on a key is true of the rows with this key.
- `Generator.meets_idsSql`: the condition on several keys is true of the rows with one of them.
-/

namespace EntityMapping

/-! ## Comparisons -/

/-- The values of a list after `in` and the side that is compared with them, read backwards
from the end of the list. -/
def listed? : List Token → Option (List Token × List Json)
  | .bound v _ :: .sign '(' :: .word w :: left =>
    if w = "in".toList then some (left.reverse, [v]) else none
  | .bound v _ :: .sign ',' :: rest => (listed? rest).map fun (left, vs) => (left, vs ++ [v])
  | _ => none

/-- The side and the values of a comparison `side = value` or `side in (value, …)`. -/
def compared? (ts : List Token) : Option (List Token × List Json) :=
  match ts.reverse with
  | .bound v _ :: .sign '=' :: left => some (left.reverse, [v])
  | .sign ')' :: rest => listed? rest
  | _ => none

/-- An equality compares its left side with one value. -/
theorem compared?_equality (left : List Token) (v : Json) (type? : Option JdbcType) :
    compared? (left ++ [.sign '=', .bound v type?]) = some (left, [v]) := by
  simp [compared?]

/-- The tokens of values between commas. -/
def valueTokens (values : List Json) : List Token :=
  [.sign ','].intercalate (values.map fun v => [.bound v none])

/-- Values are listed with a comma between them. -/
theorem valueTokens_cons (v next : Json) (rest : List Json) :
    valueTokens (v :: next :: rest) =
      [.bound v none, .sign ','] ++ valueTokens (next :: rest) := by
  rw [valueTokens, List.map_cons, List.map_cons, List.intercalate_cons_cons]
  rfl

/-- Values after others are read after them. -/
theorem listed?_append {values : List Json} (hne : values ≠ []) (tail : List Token) :
    listed? ((valueTokens values).reverse ++ .sign ',' :: tail) =
      (listed? tail).map fun (left, vs) => (left, vs ++ values) := by
  induction values generalizing tail with
  | nil => exact absurd rfl hne
  | cons v rest ih =>
    cases rest with
    | nil => simp [valueTokens, listed?]
    | cons next rest =>
      have hrest := ih (List.cons_ne_nil next rest) (.bound v none :: .sign ',' :: tail)
      rw [valueTokens_cons, List.reverse_append, List.append_assoc]
      refine hrest.trans ?_
      rw [listed?, Option.map_map]
      refine congrArg (fun f => (listed? tail).map f) (funext fun found => ?_)
      simp

/-- A list compares its left side with all its values. -/
theorem compared?_list (left : List Token) {values : List Json} (hne : values ≠ []) :
    compared? (left ++ .word "in".toList :: bracketed (valueTokens values)) =
      some (left, values) := by
  have hreverse : (left ++ .word "in".toList :: bracketed (valueTokens values)).reverse =
      .sign ')' :: ((valueTokens values).reverse ++
        .sign '(' :: .word "in".toList :: left.reverse) := by
    simp [bracketed]
  rw [compared?, hreverse]
  cases values with
  | nil => exact absurd rfl hne
  | cons v rest =>
    cases rest with
    | nil => simp [valueTokens, listed?]
    | cons next rest =>
      -- Backwards the first value comes last, right before the bracket that opens the list.
      have hlater := listed?_append (List.cons_ne_nil next rest)
        (.bound v none :: .sign '(' :: .word "in".toList :: left.reverse)
      rw [valueTokens_cons, List.reverse_append, List.append_assoc]
      refine hlater.trans ?_
      simp [listed?]

/-- The tokens of the condition that a side is among values.  Without values there is no list. -/
def amongTokens (left : List Token) (values : List Json) : List Token :=
  left ++ .word "in".toList :: if values.isEmpty then [] else bracketed (valueTokens values)

/-- A list without values ends in its operator. -/
theorem amongTokens_nil (left : List Token) : amongTokens left [] = left ++ [.word "in".toList] :=
  rfl

/-- A list with values has them in brackets behind its operator. -/
theorem amongTokens_of_ne_nil (left : List Token) {values : List Json} (hne : values ≠ []) :
    amongTokens left values = left ++ .word "in".toList :: bracketed (valueTokens values) := by
  rw [amongTokens, if_neg (by simpa using hne)]

/-! ## Rows -/

/-- A row of a table: the values that expressions, given by their tokens, are equal to. -/
abbrev TableRow := List Token → Json → Prop

namespace TableRow

/-- Whether a comparison is true of the row: its side is equal to one of the values. -/
def satisfies (row : TableRow) (ts : List Token) : Prop :=
  ∃ left values, compared? ts = some (left, values) ∧ ∃ v ∈ values, row left v

/-- Whether a condition, as a database reads it, is true of the row. -/
def meets (row : TableRow) (condition : Sql) : Prop :=
  ∃ formula, read? condition.lex = some formula ∧ formula.holds row.satisfies

variable {row : TableRow}

/-- A row satisfies an equality exactly if its left side has the value. -/
theorem satisfies_equality (left : List Token) (v : Json) (type? : Option JdbcType) :
    row.satisfies (left ++ [.sign '=', .bound v type?]) ↔ row left v := by
  simp [satisfies, compared?_equality]

/-- A row satisfies a list exactly if its left side has one of the values. -/
theorem satisfies_list (left : List Token) {values : List Json} (hne : values ≠ []) :
    row.satisfies (left ++ .word "in".toList :: bracketed (valueTokens values)) ↔
      ∃ v ∈ values, row left v := by
  rw [satisfies, compared?_list left hne]
  constructor
  · rintro ⟨_, _, hcompared, hv⟩
    cases hcompared
    exact hv
  · intro hv
    exact ⟨left, values, rfl, hv⟩

/-- A condition says what the formula says as which it is read. -/
theorem meets_iff {condition : Sql} {ts : List Token} {formula : Formula}
    (hspells : condition.Spells ts) (hreads : Reads ts formula) :
    row.meets condition ↔ formula.holds row.satisfies := by
  simp [meets, hspells.lex_eq, hreads.read?_eq]

/-- An atomic condition says what its comparison says. -/
theorem meets_atom {condition : Sql} (h : condition.IsAtomic) :
    row.meets condition ↔ row.satisfies condition.lex :=
  meets_iff h.spells h.readsAs.reads

end TableRow

/-! ## Keys of rows -/

namespace Generator

variable {g : Generator} {row : TableRow}

/-- The row has the key: every column of the key has its part as its value. -/
def HasKeyValue (g : Generator) (row : TableRow) (key : Json) : Prop :=
  ∀ s ∈ g.keyParts, row (Sql.text (g.column s)).lex (g.partOf key s)

/-- An equality has the tokens of its column, a sign and the value. -/
theorem lex_equality {column : String} (h : IsOperand column) (v : Json)
    (type? : Option JdbcType) :
    Sql.lex (Sql.text (column ++ " = ") ++ [.bound v type?]) =
      (Sql.text column).lex ++ [.sign '=', .bound v type?] := by
  obtain ⟨left, hleft, _⟩ := h
  rw [(Sql.spells_equality hleft v type?).lex_eq, hleft.lex_eq]

/-- Equalities joined by `and` are true of the rows of which each of them is true. -/
theorem meets_equalities {parts : List Slot} (value : Slot → Json)
    (type? : Slot → Option JdbcType) (hcolumns : ∀ s ∈ parts, IsOperand (g.column s))
    (hne : parts ≠ []) :
    row.meets (Sql.join " and " (parts.map fun s =>
        Sql.text (g.column s ++ " = ") ++ [.bound (value s) (type? s)])) ↔
      ∀ s ∈ parts, row (Sql.text (g.column s)).lex (value s) := by
  have hatomic : ∀ s ∈ parts,
      Sql.IsAtomic (Sql.text (g.column s ++ " = ") ++ [.bound (value s) (type? s)]) :=
    fun s hs => Sql.isAtomic_equality (hcolumns s hs) _ _
  have hspells := Sql.spells_joined fun s hs => (hatomic s hs).spells
  rw [TableRow.meets_iff hspells (reads_joined hne hatomic),
    Formula.holds_all (by simpa using hne)]
  simp only [List.forall_mem_map, Formula.holds]
  refine forall_congr' fun s => forall_congr' fun hs => ?_
  rw [lex_equality (hcolumns s hs), TableRow.satisfies_equality]

/-- The condition on simple keys has the tokens of the condition that the column is among
them. -/
theorem spells_idsSql_simple {p : Property} (hkey : g.entity.key = .simple p)
    {left : List Token} (hleft : (Sql.text (p.column.name.render g.dialect)).Spells left)
    (keys : List Json) : (g.idsSql keys).Spells (amongTokens left keys) := by
  have hin : (Sql.text "in").Spells [.word "in".toList] := rfl
  rw [idsSql_simple hkey]
  cases keys with
  | nil =>
    have hspells := hleft.append_word Sql.spells_nil hin
    simpa [amongTokens_nil, Sql.looped] using hspells
  | cons key rest =>
    have hlist : (Sql.join "," ((key :: rest).map fun key => [.bound key none])).Spells
        (valueTokens (key :: rest)) :=
      Sql.spells_listed fun key _ => Sql.spells_bound key none
    have hrounds : ∀ round ∈ (key :: rest).map fun key => [Piece.bound key none], round ≠ [] := by
      intro round hround
      obtain ⟨key, _, rfl⟩ := List.mem_map.mp hround
      exact List.cons_ne_nil _ _
    have hall := hleft.append_word hlist.bracketed hin
    rw [amongTokens_of_ne_nil left (List.cons_ne_nil key rest),
      Sql.looped_of_ne_nil (by simp) hrounds]
    simpa using hall

/-- The condition on simple keys is an atomic condition. -/
theorem isAtomic_idsSql_simple {p : Property} (hkey : g.entity.key = .simple p)
    (hcolumn : IsOperand (p.column.name.render g.dialect)) (keys : List Json) :
    (g.idsSql keys).IsAtomic := by
  obtain ⟨left, hleft, hoperand⟩ := hcolumn
  have hvalues : Operand (valueTokens keys) := by
    refine Operand.intercalate (.token _ rfl) fun ts hts => ?_
    obtain ⟨key, _, rfl⟩ := List.mem_map.mp hts
    exact .token _ rfl
  have hlist : Operand (if keys.isEmpty then [] else bracketed (valueTokens keys)) := by
    split
    · exact .nil
    · exact .brackets hvalues.closed
  have hkind : (Token.word "in".toList).kind = .plain := by decide
  exact (spells_idsSql_simple hkey hleft keys).isAtomic
    (readsAs_comparison hoperand hkind hlist)

/-- The condition on simple keys is true of the rows with one of them. -/
theorem meets_idsSql_simple {p : Property} (hkey : g.entity.key = .simple p)
    (hcolumn : IsOperand (g.column (ownPart p))) {keys : List Json} (hne : keys ≠ []) :
    row.meets (g.idsSql keys) ↔
      ∃ key ∈ keys, row (Sql.text (g.column (ownPart p))).lex key := by
  obtain ⟨left, hleft, _⟩ := id hcolumn
  have hatomic := isAtomic_idsSql_simple hkey hcolumn keys
  have hspells := spells_idsSql_simple hkey hleft keys
  rw [TableRow.meets_atom hatomic, hspells.lex_eq, hleft.lex_eq, amongTokens_of_ne_nil left hne,
    TableRow.satisfies_list left hne]

variable (hcolumns : ∀ s ∈ g.keyParts, IsOperand (g.column s))

include hcolumns in
/-- The condition on a key is true of the rows with this key. -/
theorem meets_matchSql (hparts : g.keyParts ≠ []) (key : Json) :
    row.meets (g.matchSql (g.partOf key)) ↔ g.HasKeyValue row key :=
  meets_equalities _ _ hcolumns hparts

include hcolumns in
/-- The formula of a key of several parts is true of the rows with this key. -/
theorem holds_idFormula_iff (hparts : g.keyParts ≠ []) (hkey : g.entity.key.isSimple = false)
    (key : Json) :
    (g.idFormula key).holds row.satisfies ↔ g.HasKeyValue row key := by
  have hmeets : row.meets (g.idSql key) ↔
      ∀ s ∈ g.keyParts, row (Sql.text (g.column s)).lex (key.follow (pathNames s.member)) :=
    meets_equalities _ (fun _ => none) hcolumns hparts
  rw [← TableRow.meets_iff (spells_idSql hcolumns key) (reads_idTokens hcolumns hparts key),
    hmeets, HasKeyValue]
  simp only [partOf, hkey, Bool.false_eq_true, if_false]

include hcolumns in
/-- The condition on several keys is true of the rows with one of them. -/
theorem meets_idsSql (h : g.WellKeyed) {keys : List Json} (hne : keys ≠ []) :
    row.meets (g.idsSql keys) ↔ ∃ key ∈ keys, g.HasKeyValue row key := by
  cases hsimple : g.entity.key.isSimple with
  | true =>
    obtain ⟨p, hkey⟩ := Key.isSimple_iff.mp hsimple
    have hparts := h.keyParts_of_simple hkey
    rw [meets_idsSql_simple hkey (hcolumns _ (by simp [hparts])) hne]
    simp [HasKeyValue, hparts, partOf, hsimple]
  | false =>
    have hkey : ∀ p, g.entity.key ≠ .simple p := by
      intro p hp
      rw [hp] at hsimple
      cases hsimple
    rw [TableRow.meets_iff (spells_idsSql hcolumns h.keyParts_ne_nil hne hkey)
      (reads_alternatives hcolumns h.keyParts_ne_nil hne), Formula.holds_any (by simpa using hne)]
    simp only [List.mem_map, exists_exists_and_eq_and,
      holds_idFormula_iff hcolumns h.keyParts_ne_nil hsimple]

end Generator

end EntityMapping
