import EntityMapping.Proofs.Engine.Reading
import EntityMapping.Proofs.Search.Keys
import EntityMapping.Proofs.Search.Predicates

/-!
# The filters of a search as conditions

How the filters of a search are read.  Columns are texts of the metadata and could be
anything; where they are operands, a predicate is an atomic condition and a key of several
columns a condition in brackets.

Main results:

- `Sql.spells_joined`: filters joined by ` and ` have the tokens of the filters.
- `reads_joined`: atomic conditions joined by ` and ` are read as their conjunction.
- `Sql.isAtomic_equality`, `Generation.isAtomic_predicate`: an equality and a predicate are
  atomic conditions.
- `Generator.reads_idTokens`, `Generator.reads_alternatives`: an id is a conjunction of
  equalities, and several ids are alternatives in brackets.
-/

namespace EntityMapping

/-- The connective `and`. -/
def conj : Token := .word "and".toList

/-- The connective `or`. -/
def disj : Token := .word "or".toList

/-- The word of conjunctions is one. -/
theorem kind_conj : conj.kind = .conjunction := rfl

/-- The word of disjunctions is one. -/
theorem kind_disj : disj.kind = .disjunction := rfl

/-- A text that is an operand wherever it stands: no quote in it is left open, brackets match,
and connectives stand in brackets only. -/
def IsOperand (text : String) : Prop := ∃ ts, (Sql.text text).Spells ts ∧ Operand ts

/-- SQL that is read as one atomic condition. -/
structure Sql.IsAtomic (sql : Sql) : Prop where
  spells : sql.Spells sql.lex
  readsAs : ReadsAs sql.lex (.atom sql.lex)

/-- SQL whose tokens are read as one atom is atomic. -/
theorem Sql.Spells.isAtomic {sql : Sql} {ts : List Token} (h : sql.Spells ts)
    (hreads : ReadsAs ts (.atom ts)) : sql.IsAtomic := by
  obtain rfl := h.lex_eq
  exact ⟨h, hreads⟩

/-- The brackets of an operand match. -/
theorem Operand.closed {ts : List Token} (h : Operand ts) : Closed ts := by
  induction h with
  | nil => exact .nil
  | token t hplain => exact .token t (by simp [hplain]) (by simp [hplain])
  | append _ _ ihs iht => exact .append ihs iht
  | brackets hclosed => exact .brackets hclosed

/-- Operands joined by an operand are an operand. -/
theorem Operand.intercalate {between : List Token} (hbetween : Operand between)
    {parts : List (List Token)} (h : ∀ ts ∈ parts, Operand ts) :
    Operand (between.intercalate parts) := by
  induction parts with
  | nil => exact .nil
  | cons ts rest ih =>
    have hts := h ts (List.mem_cons_self ..)
    have hrest := ih fun other hother => h other (List.mem_cons_of_mem _ hother)
    cases rest with
    | nil => simpa using hts
    | cons next rest =>
      rw [List.intercalate_cons_cons]
      exact (hts.append hbetween).append hrest

/-- Plain tokens make an operand. -/
theorem operand_of_plain {ts : List Token} (h : ∀ t ∈ ts, t.kind = .plain) : Operand ts := by
  induction ts with
  | nil => exact .nil
  | cons t rest ih =>
    have ht : Operand [t] := .token t (h t (List.mem_cons_self ..))
    exact ht.append (ih fun other hother => h other (List.mem_cons_of_mem _ hother))

namespace Sql

variable {a b : Sql} {s t : List Token}

/-- A bound value is one token. -/
theorem spells_bound (value : Json) (type? : Option JdbcType) :
    Spells [.bound value type?] [.bound value type?] := rfl

/-- What follows other SQL in brackets. -/
theorem Spells.append_bracketed (ha : Spells a s) (hb : Spells b t) :
    Spells (a ++ text "(" ++ b ++ text ")") (s ++ bracketed t) := by
  have hclosing : Spells (b ++ .char ')' :: []) (t ++ .sign ')' :: []) :=
    hb.append_sign spells_nil (by decide) (by decide)
  have hopening : Spells (a ++ .char '(' :: (b ++ .char ')' :: []))
      (s ++ .sign '(' :: (t ++ .sign ')' :: [])) :=
    ha.append_sign hclosing (by decide) (by decide)
  rw [List.append_assoc, List.append_assoc]
  exact hopening

/-- SQL in brackets has its tokens in brackets. -/
theorem Spells.bracketed (h : Spells a s) : Spells (text "(" ++ a ++ text ")") (bracketed s) :=
  spells_nil.append_bracketed h

/-- A word between blanks keeps what stands around it apart. -/
theorem Spells.append_word (ha : Spells a s) (hb : Spells b t) {word : String} {w : Token}
    (hword : Spells (text word) [w]) :
    Spells (a ++ text (" " ++ word ++ " ") ++ b) (s ++ w :: t) := by
  have hrest : Spells (text word ++ text " " ++ b) ([w] ++ t) := hword.append_blank hb
  have hall := ha.append_blank hrest
  simpa using hall

/-- A separator that keeps what stands around it apart joins the tokens of items, too. -/
theorem spells_join {α : Type} {separator : String} {between : Token}
    (hbetween : ∀ {a b : Sql} {s t : List Token}, Spells a s → Spells b t →
      Spells (a ++ text separator ++ b) (s ++ between :: t))
    {items : List α} {sql : α → Sql} {tokens : α → List Token}
    (h : ∀ item ∈ items, Spells (sql item) (tokens item)) :
    Spells (join separator (items.map sql)) ([between].intercalate (items.map tokens)) := by
  induction items with
  | nil => exact spells_nil
  | cons item rest ih =>
    have hitem := h item (List.mem_cons_self ..)
    have hrest := ih fun other hother => h other (List.mem_cons_of_mem _ hother)
    cases rest with
    | nil => simpa using hitem
    | cons next rest =>
      have hall := hbetween hitem hrest
      simp only [List.map_cons, join_cons_cons, List.intercalate_cons_cons] at hall ⊢
      rw [List.append_assoc (tokens item), List.singleton_append]
      exact hall

/-- Filters joined by ` and ` have the tokens of the filters, joined by the connective. -/
theorem spells_joined {α : Type} {items : List α} {sql : α → Sql} {tokens : α → List Token}
    (h : ∀ item ∈ items, Spells (sql item) (tokens item)) :
    Spells (join " and " (items.map sql)) ([conj].intercalate (items.map tokens)) := by
  have hword : Spells (text "and") [conj] := rfl
  exact spells_join (fun ha hb => ha.append_word hb hword) h

/-- Items joined by commas have the tokens of the items, joined by commas. -/
theorem spells_listed {α : Type} {items : List α} {sql : α → Sql} {tokens : α → List Token}
    (h : ∀ item ∈ items, Spells (sql item) (tokens item)) :
    Spells (join "," (items.map sql)) ([.sign ','].intercalate (items.map tokens)) := by
  refine spells_join (fun {a b s t} ha hb => ?_) h
  rw [List.append_assoc]
  exact ha.append_sign hb (by decide) (by decide)

/-- The comparison of a column with a value has the tokens of both sides. -/
theorem spells_equality {column : String} {left : List Token} (h : Spells (text column) left)
    (value : Json) (type? : Option JdbcType) :
    Spells (text (column ++ " = ") ++ [.bound value type?])
      (left ++ [.sign '=', .bound value type?]) := by
  have hequals : Spells (text "= " ++ [.bound value type?]) [.sign '=', .bound value type?] := rfl
  have htext : text " = " = text " " ++ text "= " := rfl
  have hspells := h.append_blank hequals
  simpa [htext] using hspells

/-- The comparison of a column with a value is an atomic condition. -/
theorem isAtomic_equality {column : String} (h : IsOperand column) (value : Json)
    (type? : Option JdbcType) : IsAtomic (text (column ++ " = ") ++ [.bound value type?]) := by
  obtain ⟨left, hleft, hoperand⟩ := h
  have hkind : (Token.sign '=').kind = .plain := rfl
  have hvalue : Operand [.bound value type?] := .token _ rfl
  exact (spells_equality hleft value type?).isAtomic (readsAs_comparison hoperand hkind hvalue)

end Sql

/-- Atomic conditions joined by `and` are read as their conjunction. -/
theorem reads_joined {α : Type} {items : List α} {sql : α → Sql} (hne : items ≠ [])
    (h : ∀ item ∈ items, (sql item).IsAtomic) :
    Reads ([conj].intercalate (items.map fun item => (sql item).lex))
      (.all (items.map fun item => .atom (sql item).lex)) := by
  let factors : List (List Token × Formula) :=
    items.map fun item => ((sql item).lex, .atom (sql item).lex)
  have hfactors : ∀ group ∈ [factors], group ≠ [] ∧ ∀ x ∈ group, ReadsAs x.1 x.2 := by
    intro group hgroup
    obtain rfl := List.mem_singleton.mp hgroup
    refine ⟨fun hnil => hne (List.map_eq_nil_iff.mp hnil), fun x hx => ?_⟩
    obtain ⟨item, hitem, rfl⟩ := List.mem_map.mp hx
    exact (h item hitem).readsAs
  have hreads := reads_disjunction kind_conj kind_disj (List.cons_ne_nil _ _) hfactors
  simpa [factors, conjoined, Formula.any, Function.comp_def] using hreads

namespace Generation

variable {d : Dialect} {search : Json} {pc : Property × Condition}

/-! ## Sides of a comparison -/

/-- The function that folds the letter case is one word. -/
theorem spells_lowercase (d : Dialect) :
    (Sql.text d.lowercase).Spells [.word d.lowercase.toList] := by
  cases d <;> rfl

/-- That word is an operand. -/
theorem operand_lowercase (d : Dialect) : Operand [.word d.lowercase.toList] := by
  refine .token _ ?_
  cases d <;> rfl

/-- The left side of a comparison is an operand if the column is one. -/
theorem isOperand_leftSql {column : String} (h : IsOperand column) (rule : CaseRule) (d : Dialect) :
    ∃ ts, (leftSql column rule d.lowercase).Spells ts ∧ Operand ts := by
  obtain ⟨ts, hspells, hoperand⟩ := h
  unfold leftSql
  split
  · have hfolded := (spells_lowercase d).append_bracketed hspells
    refine ⟨_, ?_, (operand_lowercase d).append (.brackets hoperand.closed)⟩
    simpa using hfolded
  · exact ⟨ts, hspells, hoperand⟩

/-- A value is an operand. -/
theorem spells_boundSql (rule : CaseRule) (d : Dialect) (value : Json) :
    ∃ ts, (boundSql rule d.lowercase value).Spells ts ∧ Operand ts := by
  have hvalue : Operand [.bound value none] := .token _ rfl
  unfold boundSql
  split
  · have hfolded := (spells_lowercase d).append_bracketed (Sql.spells_bound value none)
    refine ⟨_, ?_, (operand_lowercase d).append (.brackets hvalue.closed)⟩
    simpa using hfolded
  · exact ⟨_, Sql.spells_bound value none, hvalue⟩

/-- A list of values makes an operand, bound and folded as they may be. -/
theorem spells_list (rule : CaseRule) (d : Dialect) (items : List Json) :
    ∃ ts, (Sql.join "," (items.map (boundSql rule d.lowercase))).Spells ts ∧ Operand ts := by
  let tokens (item : Json) : List Token := (boundSql rule d.lowercase item).lex
  have hvalue : ∀ item, (boundSql rule d.lowercase item).Spells (tokens item) ∧
      Operand (tokens item) := by
    intro item
    obtain ⟨ts, hspells, hoperand⟩ := spells_boundSql rule d item
    rw [show tokens item = ts from hspells.lex_eq]
    exact ⟨hspells, hoperand⟩
  have hcomma : Operand [.sign ','] := .token _ rfl
  have hlist := Sql.spells_listed fun item (_ : item ∈ items) => (hvalue item).1
  refine ⟨_, hlist, hcomma.intercalate fun ts hts => ?_⟩
  obtain ⟨item, _, rfl⟩ := List.mem_map.mp hts
  exact (hvalue item).2

/-- A list of values is an operand. -/
theorem spells_looped (rule : CaseRule) (d : Dialect) (items : List Json) :
    ∃ ts, (Sql.looped "(" "," ")" (items.map (boundSql rule d.lowercase))).Spells ts ∧
      Operand ts := by
  cases items with
  | nil => exact ⟨[], Sql.spells_nil, .nil⟩
  | cons item rest =>
    have hrounds : ∀ round ∈ (item :: rest).map (boundSql rule d.lowercase), round ≠ [] := by
      intro round hround hnil
      obtain ⟨value, _, rfl⟩ := List.mem_map.mp hround
      obtain ⟨piece, hpiece, _⟩ := (trimEnd_boundSql rule d.lowercase value).1
      rw [hnil] at hpiece
      cases hpiece
    obtain ⟨ts, hspells, hoperand⟩ := spells_list rule d (item :: rest)
    rw [Sql.looped_of_ne_nil (by simp) hrounds]
    exact ⟨_, hspells.bracketed, .brackets hoperand.closed⟩

/-! ## Predicates -/

/-- An operator begins with a token that is neither a bracket nor a connective. -/
theorem spells_operator {c : Comparison} (hc : c ≠ .between) : ∃ op rest,
    (Sql.text (operator c)).Spells (op :: rest) ∧ op.kind = .plain ∧
      ∀ t ∈ rest, t.kind = .plain := by
  cases c with
  | between => exact absurd rfl hc
  | _ => exact ⟨_, _, rfl, by decide, by decide⟩

/-- The right side of a comparison with at most one operand is an operand. -/
theorem spells_rightSql {c : Comparison} {rule : CaseRule} {values : List Json} {right : Sql}
    (hc : c ≠ .between) (h : rightSql? c rule values d.lowercase = some right) :
    ∃ ts, right.Spells ts ∧ Operand ts := by
  cases c with
  | between => exact absurd rfl hc
  | isNull => cases h
  | isNotNull => cases h
  | isTrue => cases h
  | isFalse => cases h
  | isIn =>
    cases h
    exact spells_looped rule d _
  | notIn =>
    cases h
    exact spells_looped rule d _
  | _ =>
    cases h
    exact spells_boundSql rule d _

/-- A test for a range is an atomic condition. -/
theorem isAtomic_range {p : Property} {c : Condition} (h : IsOperand (comparedColumn p c d))
    (hc : c.comparison = .between) :
    (predicateSql d search (p, c)).IsAtomic := by
  obtain ⟨left, hleft, hoperand⟩ := isOperand_leftSql h c.caseRule d
  let values := (operands p c).map (operandValue search)
  obtain ⟨low, hlow, hoperandLow⟩ := spells_boundSql c.caseRule d (values.head?.getD .null)
  obtain ⟨high, hhigh, hoperandHigh⟩ := spells_boundSql c.caseRule d ((values[1]?).getD .null)
  have hbetween : (Sql.text " between ").Spells [.word "between".toList] := rfl
  have hand : (Sql.text "and").Spells [conj] := rfl
  have hspells := (hleft.append_blank hbetween).append_blank (hlow.append_word hhigh hand)
  have hkind : (Token.word "between".toList).kind = .between := rfl
  have hoperator : Sql.text "  between " = Sql.text " " ++ Sql.text " between " := rfl
  refine Sql.Spells.isAtomic ?_ (readsAs_between hoperand hkind hoperandLow kind_conj hoperandHigh)
  simp only [predicateSql, hc, rightSql?, operator]
  simpa [values, hoperator] using hspells

/-- A predicate is an atomic condition. -/
theorem isAtomic_predicate (h : IsOperand (comparedColumn pc.1 pc.2 d)) :
    (predicateSql d search pc).IsAtomic := by
  obtain ⟨p, c⟩ := pc
  by_cases hc : c.comparison = .between
  · exact isAtomic_range h hc
  · obtain ⟨left, hleft, hoperand⟩ := isOperand_leftSql h c.caseRule d
    obtain ⟨op, rest, hoperator, hop, hrest⟩ := spells_operator hc
    have hcomparison := hleft.append_blank hoperator
    simp only [predicateSql]
    split
    · next right hright =>
      obtain ⟨ts, hts, hoperandRight⟩ := spells_rightSql hc hright
      have hspells := hcomparison.append_blank hts
      have hreads := readsAs_comparison hoperand hop
        ((operand_of_plain hrest).append hoperandRight)
      refine Sql.Spells.isAtomic ?_ hreads
      simpa using hspells
    · refine Sql.Spells.isAtomic ?_ (readsAs_comparison hoperand hop (operand_of_plain hrest))
      simpa using hcomparison

end Generation

/-! ## Keys -/

namespace Generator

variable {g : Generator}

/-- The comparison of a part of a key is an atomic condition. -/
theorem isAtomic_partSql {s : Slot} (h : IsOperand (g.column s)) (id : Json) :
    (g.partSql id s).IsAtomic :=
  Sql.isAtomic_equality h _ none

/-- The tokens of an id. -/
def idTokens (g : Generator) (id : Json) : List Token :=
  [conj].intercalate (g.keyParts.map fun s => (g.partSql id s).lex)

/-- What an id says: every part of the key has its value. -/
def idFormula (g : Generator) (id : Json) : Formula :=
  .all (g.keyParts.map fun s => .atom (g.partSql id s).lex)

variable (hcolumns : ∀ s ∈ g.keyParts, IsOperand (g.column s)) (hparts : g.keyParts ≠ [])

include hcolumns in
/-- The equalities of an id have its tokens. -/
theorem spells_idSql (id : Json) : (g.idSql id).Spells (g.idTokens id) :=
  Sql.spells_joined fun s hs => (isAtomic_partSql (hcolumns s hs) id).spells

include hcolumns hparts in
/-- An id is read as the conjunction of the comparisons of its parts. -/
theorem reads_idTokens (id : Json) : Reads (g.idTokens id) (g.idFormula id) :=
  reads_joined hparts fun s hs => isAtomic_partSql (hcolumns s hs) id

include hparts in
/-- The equalities of an id are never empty, for they stand in brackets. -/
theorem idSql_ne_nil (id : Json) : g.idSql id ≠ [] := by
  obtain ⟨s, rest, hs⟩ := List.exists_cons_of_ne_nil hparts
  intro hnil
  rw [idSql, hs, List.map_cons, Sql.join_cons, partSql] at hnil
  simp at hnil

include hcolumns in
/-- Ids have the tokens of each of them in brackets, joined by the connective `or`. -/
theorem spells_alternatives (ids : List Json) (hne : ids ≠ []) :
    (Sql.text "(" ++ Sql.join ") or (" (ids.map g.idSql) ++ Sql.text ")").Spells
      ([disj].intercalate (ids.map fun id => bracketed (g.idTokens id))) := by
  induction ids with
  | nil => exact absurd rfl hne
  | cons id rest ih =>
    have hid := (spells_idSql hcolumns id).bracketed
    cases rest with
    | nil => simpa using hid
    | cons next rest =>
      have hword : (Sql.text "or").Spells [disj] := rfl
      have hall := hid.append_word (ih (List.cons_ne_nil _ _)) hword
      have htext : Sql.text ") or (" = Sql.text ")" ++ Sql.text " or " ++ Sql.text "(" := rfl
      simp only [List.map_cons, Sql.join_cons_cons, List.intercalate_cons_cons] at hall ⊢
      simpa [htext] using hall

include hcolumns hparts in
/-- Ids of a key with parts have the tokens of each id, disjoined. -/
theorem spells_idsSql {ids : List Json} (hne : ids ≠ []) (hkey : ∀ p, g.entity.key ≠ .simple p) :
    (g.idsSql ids).Spells ([disj].intercalate (ids.map fun id => bracketed (g.idTokens id))) := by
  have hrounds : ∀ round ∈ ids.map g.idSql, round ≠ [] := by
    intro round hround
    obtain ⟨id, _, rfl⟩ := List.mem_map.mp hround
    exact idSql_ne_nil hparts id
  rw [idsSql_of_parts hkey, Sql.looped_of_ne_nil (by simpa using hne) hrounds]
  exact spells_alternatives hcolumns ids hne

include hcolumns hparts in
/-- Several ids are read as alternatives. -/
theorem reads_alternatives {ids : List Json} (hne : ids ≠ []) :
    Reads ([disj].intercalate (ids.map fun id => bracketed (g.idTokens id)))
      (.any (ids.map g.idFormula)) := by
  let groups : List (List (List Token × Formula)) :=
    ids.map fun id => [(bracketed (g.idTokens id), g.idFormula id)]
  have hgroups : ∀ group ∈ groups, group ≠ [] ∧ ∀ x ∈ group, ReadsAs x.1 x.2 := by
    intro group hgroup
    obtain ⟨id, _, rfl⟩ := List.mem_map.mp hgroup
    refine ⟨List.cons_ne_nil _ _, fun x hx => ?_⟩
    obtain rfl := List.mem_singleton.mp hx
    exact (reads_idTokens hcolumns hparts id).readsAs
  have hreads := reads_disjunction kind_conj kind_disj (by simpa [groups] using hne) hgroups
  simpa [groups, conjoined, Formula.all, Function.comp_def] using hreads

end Generator

end EntityMapping
