import EntityMapping.Dialect
import EntityMapping.Entity.Column
import EntityMapping.Proofs.Search.Tokens

/-!
# Grammatical conditions

A condition is grammatical if its quotes and brackets match and each of its atomic conditions
is a comparison with all its sides: a relation of two, a test for a range, a list that is not
empty, or a test for null.  What stands on a side is not taken apart, but a side is there, and
outside brackets no operator and no comma is part of it.

Main results:

- `not_compares_of_separator`: nothing that ends in an operator is a comparison.
- `grammatical_joined`: filters joined by ` and ` are grammatical exactly if each of them is a
  comparison.
- `isSide_word`: a word is a side wherever it stands.
- `Generation.compares_predicateSql_iff`: the predicates that are comparisons.
-/

namespace EntityMapping

/-! ## Sides -/

/-- The text of a word or a sign, words in lower case. -/
def Token.symbol : Token → List Char
  | .word cs => cs.map Char.toLower
  | .sign c => [c]
  | _ => []

/-- The relations between two sides. -/
def relations : List (List (List Char)) :=
  [["=".toList], ["<".toList, ">".toList], ["<".toList], ["<".toList, "=".toList], [">".toList],
    [">".toList, "=".toList], ["like".toList], ["not".toList, "like".toList]]

/-- The relations between a side and a list. -/
def memberships : List (List (List Char)) :=
  [["in".toList], ["not".toList, "in".toList]]

/-- The tests for null. -/
def nullTests : List (List (List Char)) :=
  [["is".toList, "null".toList], ["is".toList, "not".toList, "null".toList]]

/-- The symbols that put conditions together. -/
def connectives : List (List Char) :=
  ["(".toList, ")".toList, "and".toList, "or".toList, "between".toList]

/-- The symbols that stand between the sides of a comparison or in front of one. -/
def separators : List (List Char) :=
  ["=".toList, "<".toList, ">".toList, ",".toList, ";".toList, "like".toList, "not".toList,
    "in".toList, "is".toList]

/-- A side of a comparison: it is there, its brackets match, and connectives, operators and
commas stand in brackets only. -/
inductive Side : List Token → Prop
  | token (t : Token) : t.symbol ∉ connectives ++ separators → Side [t]
  | append {s t : List Token} : Side s → Side t → Side (s ++ t)
  | brackets {ts : List Token} : Closed ts → Side (bracketed ts)

/-- A comparison with all its sides. -/
inductive Compares : List Token → Prop
  | relation {left op right : List Token} : Side left → op.map Token.symbol ∈ relations →
      Side right → Compares (left ++ op ++ right)
  | range {left low high : List Token} {op conj : Token} : Side left → op.kind = .between →
      Side low → conj.kind = .conjunction → Side high →
      Compares (left ++ op :: low ++ conj :: high)
  | list {left op : List Token} {items : List (List Token)} : Side left →
      op.map Token.symbol ∈ memberships → items ≠ [] → (∀ item ∈ items, Side item) →
      Compares (left ++ op ++ bracketed ([.sign ','].intercalate items))
  | null {left op : List Token} : Side left → op.map Token.symbol ∈ nullTests →
      Compares (left ++ op)

variable {ts left right op : List Token} {t : Token}

/-- What is neither a bracket nor a connective is plain. -/
theorem kind_eq_plain (h : t.symbol ∉ connectives) : t.kind = .plain := by
  simp only [connectives, List.mem_cons, List.not_mem_nil, or_false, not_or] at h
  obtain ⟨hopening, hclosing, hand, hor, hbetween⟩ := h
  cases t with
  | word cs =>
    rw [Token.symbol] at hand hor hbetween
    simp only [Token.kind, if_neg hand, if_neg hor, if_neg hbetween]
  | sign c =>
    have hmark : c ≠ '(' ∧ c ≠ ')' :=
      ⟨fun hc => hopening (by rw [hc]; rfl), fun hc => hclosing (by rw [hc]; rfl)⟩
    simp only [Token.kind, if_neg hmark.1, if_neg hmark.2]
  | _ => rfl

/-- A side is an operand. -/
theorem Side.operand (h : Side ts) : Operand ts := by
  induction h with
  | token t hside =>
    exact .token t (kind_eq_plain fun hmem => hside (List.mem_append_left _ hmem))
  | append _ _ ihs iht => exact ihs.append iht
  | brackets hclosed => exact .brackets hclosed

/-- A value is a side. -/
theorem side_bound (value : Json) (type? : Option JdbcType) : Side [.bound value type?] :=
  .token _ (by simp only [Token.symbol]; decide)

/-! ## Ends of comparisons -/

/-- The tokens end in one that is no operator and no comma. -/
def EndsASide (ts : List Token) : Prop := ∃ t ∈ ts.getLast?, t.symbol ∉ separators

/-- What ends a side still ends one behind more tokens. -/
theorem EndsASide.append_right (h : EndsASide right) (left : List Token) :
    EndsASide (left ++ right) := by
  obtain ⟨t, ht, hside⟩ := h
  exact ⟨t, List.mem_getLast?_append_of_mem_getLast? ht, hside⟩

/-- Brackets end a side. -/
theorem endsASide_bracketed (ts : List Token) : EndsASide (bracketed ts) := by
  refine ⟨.sign ')', ?_, by decide⟩
  rw [bracketed, List.getLast?_concat]
  rfl

/-- A side ends a side. -/
theorem Side.endsASide (h : Side ts) : EndsASide ts := by
  induction h with
  | token t hside => exact ⟨t, rfl, fun hmem => hside (List.mem_append_right _ hmem)⟩
  | append _ _ _ iht => exact iht.append_right _
  | brackets _ => exact endsASide_bracketed _

/-- A test for null ends a side. -/
theorem endsASide_nullTest (h : op.map Token.symbol ∈ nullTests) : EndsASide op := by
  have hnull : (op.map Token.symbol).getLast? = some "null".toList := by
    rcases List.mem_pair.mp h with hop | hop
    · rw [hop]
      rfl
    · rw [hop]
      rfl
  rw [List.getLast?_map] at hnull
  obtain ⟨last, hlast, hsymbol⟩ := Option.map_eq_some_iff.mp hnull
  refine ⟨last, hlast, ?_⟩
  rw [hsymbol]
  decide

/-- A comparison ends a side. -/
theorem Compares.endsASide (h : Compares ts) : EndsASide ts := by
  cases h with
  | relation _ _ hright => exact hright.endsASide.append_right _
  | range _ _ _ _ hhigh => exact (hhigh.endsASide.append_right [_]).append_right _
  | list _ _ _ _ => exact (endsASide_bracketed _).append_right _
  | null _ hop => exact (endsASide_nullTest hop).append_right _

/-- Nothing that ends in an operator is a comparison. -/
theorem not_compares_of_separator (left : List Token) (h : t.symbol ∈ separators) :
    ¬ Compares (left ++ [t]) := by
  intro hcompares
  obtain ⟨last, hlast, hside⟩ := hcompares.endsASide
  rw [List.getLast?_concat] at hlast
  obtain rfl := Option.some.inj hlast
  exact hside h

/-! ## Reading comparisons -/

/-! ## Grammatical conditions -/

/-- Every atomic condition of the formula has the property. -/
def Formula.every (property : List Token → Prop) : Formula → Prop
  | atom tokens => property tokens
  | both first second => first.every property ∧ second.every property
  | either first second => first.every property ∧ second.every property

/-- A property holds in a conjunction exactly if it does in each part. -/
theorem Formula.every_all {property : List Token → Prop} {fs : List Formula} (h : fs ≠ []) :
    (all fs).every property ↔ ∀ f ∈ fs, f.every property := by
  induction fs with
  | nil => exact absurd rfl h
  | cons f rest ih =>
    cases rest with
    | nil => simp [all]
    | cons next rest =>
      have hrest := ih (List.cons_ne_nil next rest)
      simp only [List.forall_mem_cons] at hrest ⊢
      exact and_congr_right fun _ => hrest

/-- A condition whose quotes and brackets match and whose atomic conditions are comparisons. -/
def Grammatical (condition : Sql) : Prop :=
  condition.Spells condition.lex ∧
    ∃ formula, read? condition.lex = some formula ∧ formula.every Compares

/-- A condition is grammatical if what it is read as is. -/
theorem grammatical_iff {condition : Sql} {formula : Formula} (hspells : condition.Spells ts)
    (hreads : Reads ts formula) : Grammatical condition ↔ formula.every Compares := by
  obtain rfl := hspells.lex_eq
  simp [Grammatical, hspells, hreads.read?_eq]

/-- Filters joined by ` and ` are grammatical exactly if each of them is a comparison. -/
theorem grammatical_joined {filters : List Sql} (hne : filters ≠ [])
    (hatomic : ∀ filter ∈ filters, filter.IsAtomic) :
    Grammatical (Sql.trimEnd (Sql.join " and " filters)) ↔
      ∀ filter ∈ filters, Compares filter.lex := by
  have hspells := (Sql.spells_joined fun filter hfilter => (hatomic filter hfilter).spells).trimEnd
  rw [List.map_id'] at hspells
  rw [grammatical_iff hspells (reads_joined hne hatomic), Formula.every_all (by simpa using hne)]
  simp [Formula.every]

/-- An atomic condition is grammatical exactly if it is a comparison. -/
theorem grammatical_atom {condition : Sql} (h : condition.IsAtomic) :
    Grammatical condition ↔ Compares condition.lex :=
  grammatical_iff h.spells h.readsAs.reads

/-! ## Columns -/

/-- A text that is a side wherever it stands. -/
def IsSide (text : String) : Prop := ∃ ts, (Sql.text text).Spells ts ∧ Side ts

/-- A text that is a side is an operand. -/
theorem IsSide.isOperand {text : String} (h : IsSide text) : IsOperand text := by
  obtain ⟨ts, hspells, hside⟩ := h
  exact ⟨ts, hspells, hside.operand⟩

/-- A column named by a word that is no connective and no operator is a side. -/
theorem isSide_word {word : String} (hne : word ≠ "")
    (h : word.toList.all (fun c => decide (Sql.IsWordChar c)) = true)
    (hfree : (Token.word word.toList).symbol ∉ connectives ++ separators) : IsSide word :=
  ⟨_, Sql.spells_word hne fun c hc => of_decide_eq_true (List.all_eq_true.mp h c hc),
    .token _ hfree⟩

namespace Generation

variable {d : Dialect} {search : Json} {pc : Property × Condition}

/-! ## Predicates -/

/-- The tokens of a side, folded if the letter case is ignored. -/
def foldedTokens (rule : CaseRule) (d : Dialect) (ts : List Token) : List Token :=
  if rule.folds then .word d.lowercase.toList :: bracketed ts else ts

/-- A side stays one when its letter case is folded. -/
theorem Side.folded (h : Side ts) (rule : CaseRule) (d : Dialect) :
    Side (foldedTokens rule d ts) := by
  unfold foldedTokens
  split
  · have hname : Side [.word d.lowercase.toList] := .token _ (by cases d <;> decide)
    exact hname.append (.brackets h.operand.closed)
  · exact h

/-- The left side of a comparison has the tokens of its column, folded as the rule says. -/
theorem spells_leftSql {column : String} (h : (Sql.text column).Spells ts) (rule : CaseRule)
    (d : Dialect) : (leftSql column rule d.lowercase).Spells (foldedTokens rule d ts) := by
  unfold leftSql foldedTokens
  split
  · have hfolded := (spells_lowercase d).append_bracketed h
    simpa using hfolded
  · exact h

/-- A value has the tokens of a side. -/
theorem exists_side_boundSql (rule : CaseRule) (d : Dialect) (value : Json) :
    ∃ ts, (boundSql rule d.lowercase value).Spells ts ∧ Side ts := by
  refine ⟨foldedTokens rule d [.bound value none], ?_, Side.folded (side_bound value none) rule d⟩
  unfold boundSql foldedTokens
  split
  · have hfolded := (spells_lowercase d).append_bracketed (Sql.spells_bound value none)
    simpa using hfolded
  · exact Sql.spells_bound value none

/-- A condition that compares with a list is given one with items. -/
def HasItems (search : Json) (pc : Property × Condition) : Prop :=
  pc.2.comparison = .isIn ∨ pc.2.comparison = .notIn →
    ∀ operand ∈ (operands pc.1 pc.2).head?, (operandValue search operand).items ≠ []

/-- The comparison of a side with a list that has items. -/
theorem exists_compares_list {side : Sql} {left op : List Token} {operator : String}
    (hspells : side.Spells left) (hleft : Side left) (hoperator : (Sql.text operator).Spells op)
    (hop : op.map Token.symbol ∈ memberships) (rule : CaseRule) (d : Dialect) {items : List Json}
    (hne : items ≠ []) :
    ∃ ts, (side ++ Sql.text (" " ++ operator) ++ Sql.text " " ++
      Sql.looped "(" "," ")" (items.map (boundSql rule d.lowercase))).Spells ts ∧ Compares ts := by
  choose tokens htokens hsides using fun item => exists_side_boundSql rule d item
  have hrounds : ∀ round ∈ items.map (boundSql rule d.lowercase), round ≠ [] := by
    intro round hround hnil
    obtain ⟨value, _, rfl⟩ := List.mem_map.mp hround
    obtain ⟨piece, hpiece, _⟩ := (trimEnd_boundSql rule d.lowercase value).1
    rw [hnil] at hpiece
    cases hpiece
  have hlist := Sql.spells_listed fun item (_ : item ∈ items) => htokens item
  have hall := (hspells.append_blank hoperator).append_blank hlist.bracketed
  refine ⟨_, ?_, .list hleft hop (by simpa using hne : items.map tokens ≠ []) ?_⟩
  · rw [Sql.looped_of_ne_nil (by simpa using hne) hrounds]
    simpa using hall
  · intro ts hts
    obtain ⟨item, _, rfl⟩ := List.mem_map.mp hts
    exact hsides item

/-- The relation of a side with a value. -/
theorem exists_compares_value {side : Sql} {left op : List Token} {operator : String}
    (hspells : side.Spells left) (hleft : Side left) (hoperator : (Sql.text operator).Spells op)
    (hop : op.map Token.symbol ∈ relations) (rule : CaseRule) (d : Dialect) (value : Json) :
    ∃ ts, (side ++ Sql.text (" " ++ operator) ++ Sql.text " " ++
      boundSql rule d.lowercase value).Spells ts ∧ Compares ts := by
  obtain ⟨right, hvalue, hright⟩ := exists_side_boundSql rule d value
  have hall := (hspells.append_blank hoperator).append_blank hvalue
  exact ⟨_, by simpa using hall, .relation hleft hop hright⟩

/-- The test whether a side lies between two values. -/
theorem exists_compares_range {side : Sql} {left : List Token} (hspells : side.Spells left)
    (hleft : Side left) (rule : CaseRule) (d : Dialect) (low high : Json) :
    ∃ ts, (side ++ Sql.text (" " ++ operator .between) ++ Sql.text " " ++
      (boundSql rule d.lowercase low ++ Sql.text " and " ++
        boundSql rule d.lowercase high)).Spells ts ∧ Compares ts := by
  obtain ⟨first, hlow, hfirst⟩ := exists_side_boundSql rule d low
  obtain ⟨second, hhigh, hsecond⟩ := exists_side_boundSql rule d high
  have hbetween : (Sql.text (operator .between)).Spells [.word "between".toList] := rfl
  have hand : (Sql.text "and").Spells [conj] := rfl
  have hall := (hspells.append_blank hbetween).append_blank (hlow.append_word hhigh hand)
  have hkind : (Token.word "between".toList).kind = .between := by decide
  refine ⟨_, ?_, .range hleft hkind hfirst kind_conj hsecond⟩
  simpa using hall

/-- The operator of a comparison is that of a relation, a list or a test. -/
theorem exists_operator (c : Comparison) :
    ∃ op, (Sql.text (operator c)).Spells op ∧
      (c ∈ [.isIn, .notIn] → op.map Token.symbol ∈ memberships) ∧
      (c ∈ [.isNull, .isNotNull] → op.map Token.symbol ∈ nullTests) ∧
      (c ∉ [.between, .isNull, .isNotNull, .isTrue, .isFalse, .isIn, .notIn] →
        op.map Token.symbol ∈ relations) := by
  cases c <;> exact ⟨_, rfl, by decide, by decide, by decide⟩

/-- A test for a truth value is a relation with it. -/
theorem truth_operator {c : Comparison} (hc : c ∈ [.isTrue, .isFalse]) :
    ∃ word, (Sql.text (operator c)).Spells [.sign '=', .word word] ∧ Side [.word word] := by
  cases c <;> first
    | exact absurd hc (by decide)
    | exact ⟨_, rfl, .token _ (by decide)⟩

/-- A predicate that compares with no list, or with one that has items, is a comparison. -/
theorem exists_compares_predicateSql (hcolumn : IsSide (comparedColumn pc.1 pc.2 d))
    (hitems : HasItems search pc) :
    ∃ ts, (predicateSql d search pc).Spells ts ∧ Compares ts := by
  obtain ⟨column, hcolumn, hside⟩ := hcolumn
  have hspells := spells_leftSql hcolumn pc.2.caseRule d
  have hleft := Side.folded hside pc.2.caseRule d
  obtain ⟨first, rest, hops⟩ := List.exists_cons_of_ne_nil (operands_ne_nil pc.1 pc.2)
  have hlist : pc.2.comparison = .isIn ∨ pc.2.comparison = .notIn →
      (operandValue search first).items ≠ [] :=
    fun hc => hitems hc first (by simp [hops])
  obtain ⟨op, hoperator, hmember, hnull, hrelation⟩ := exists_operator pc.2.comparison
  have hcomparison := hspells.append_blank hoperator
  rw [List.append_assoc, ← Sql.text_append] at hcomparison
  have htruth : pc.2.comparison ∈ [.isTrue, .isFalse] →
      ∃ ts, (leftSql (comparedColumn pc.1 pc.2 d) pc.2.caseRule d.lowercase ++
        Sql.text (" " ++ operator pc.2.comparison)).Spells ts ∧ Compares ts := by
    intro hc
    obtain ⟨word, hword, hright⟩ := truth_operator hc
    have hall := hspells.append_blank hword
    rw [List.append_assoc, ← Sql.text_append] at hall
    have hrelates : Compares (_ ++ [.sign '='] ++ [.word word]) :=
      .relation hleft (by decide) hright
    exact ⟨_, hall, by simpa using hrelates⟩
  unfold predicateSql
  rw [hops, List.map_cons]
  generalize pc.2.comparison = c at *
  cases c with
  | between => exact exists_compares_range hspells hleft _ _ _ _
  | isNull => exact ⟨_, hcomparison, .null hleft (hnull (by decide))⟩
  | isNotNull => exact ⟨_, hcomparison, .null hleft (hnull (by decide))⟩
  | isTrue => exact htruth (by decide)
  | isFalse => exact htruth (by decide)
  | isIn =>
    exact exists_compares_list hspells hleft hoperator (hmember (by decide)) _ d (hlist (.inl rfl))
  | notIn =>
    exact exists_compares_list hspells hleft hoperator (hmember (by decide)) _ d (hlist (.inr rfl))
  | _ => exact exists_compares_value hspells hleft hoperator (hrelation (by decide)) _ _ _

/-- The operator of a comparison with a list ends in a separator. -/
theorem exists_separator {c : Comparison} (hc : c = .isIn ∨ c = .notIn) :
    ∃ front t, (Sql.text (operator c)).Spells (front ++ [t]) ∧ t.symbol ∈ separators := by
  rcases hc with rfl | rfl
  · exact ⟨[], .word "in".toList, rfl, by decide⟩
  · exact ⟨[.word "not".toList], .word "in".toList, rfl, by decide⟩

/-- A predicate is a comparison exactly if it compares with no list without items. -/
theorem compares_predicateSql_iff (hcolumn : IsSide (comparedColumn pc.1 pc.2 d)) :
    Compares (predicateSql d search pc).lex ↔ HasItems search pc := by
  constructor
  · intro hcompares hc operand hoperand hempty
    obtain ⟨column, hspells, _⟩ := hcolumn
    obtain ⟨front, t, hoperator, hseparator⟩ := exists_separator hc
    -- The loop over no items leaves the operator at the end.
    have hlist : predicateSql d search pc =
        leftSql (comparedColumn pc.1 pc.2 d) pc.2.caseRule d.lowercase ++ Sql.text " " ++
          Sql.text (operator pc.2.comparison) ++ Sql.text " " ++ [] := by
      obtain ⟨rest, hops⟩ := List.head?_eq_some_iff.mp hoperand
      rcases hc with hc | hc
      · simp [predicateSql, hc, rightSql?, hops, hempty, Sql.looped]
      · simp [predicateSql, hc, rightSql?, hops, hempty, Sql.looped]
    have hall := ((spells_leftSql hspells pc.2.caseRule d).append_blank hoperator).append_blank
      Sql.spells_nil
    rw [← hlist, List.append_nil, ← List.append_assoc] at hall
    rw [hall.lex_eq] at hcompares
    exact not_compares_of_separator _ hseparator hcompares
  · intro hitems
    obtain ⟨ts, hspells, hcompares⟩ := exists_compares_predicateSql hcolumn hitems
    rw [hspells.lex_eq]
    exact hcompares

end Generation

end EntityMapping
