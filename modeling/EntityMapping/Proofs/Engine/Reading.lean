import EntityMapping.Proofs.Engine.Lexing

/-!
# Reading conditions

A condition as a database reads it: `and` binds tighter than `or`, brackets come first, and
the `and` of a `between` belongs to it.  What stands between the connectives is not taken
apart.  The reader keeps one level for each bracket that is open, with the disjuncts and
conjuncts that are complete and the items of the factor that has begun.

Main results:

- `Operand.run`: an operand only adds items to the factor in which it stands.
- `readsAs_comparison`, `readsAs_between`, `Reads.readsAs`: comparisons and conditions in
  brackets are factors.
- `reads_disjunction`: factors joined by `and` and then by `or` are a disjunction of
  conjunctions.
-/

namespace EntityMapping

/-! ## Formulas -/

/-- What a condition says: an atomic condition, given by its tokens, or two conditions. -/
inductive Formula
  | atom (tokens : List Token)
  | both (first second : Formula)
  | either (first second : Formula)

namespace Formula

/-- Whether a row satisfies a formula, given the atomic conditions that are true of it. -/
def holds (row : List Token → Prop) : Formula → Prop
  | atom tokens => row tokens
  | both first second => first.holds row ∧ second.holds row
  | either first second => first.holds row ∨ second.holds row

/-- The conjunction of formulas. -/
def all : List Formula → Formula
  | [] => atom []
  | [f] => f
  | f :: rest => both f (all rest)

/-- The disjunction of formulas. -/
def any : List Formula → Formula
  | [] => atom []
  | [f] => f
  | f :: rest => either f (any rest)

/-- A conjunction holds exactly if each of its parts does. -/
theorem holds_all {row : List Token → Prop} {fs : List Formula} (h : fs ≠ []) :
    (all fs).holds row ↔ ∀ f ∈ fs, f.holds row := by
  induction fs with
  | nil => exact absurd rfl h
  | cons f rest ih =>
    cases rest with
    | nil => simp [all]
    | cons next rest =>
      have hrest := ih (List.cons_ne_nil next rest)
      simp only [List.forall_mem_cons] at hrest ⊢
      exact and_congr_right fun _ => hrest

/-- A disjunction holds exactly if one of its parts does. -/
theorem holds_any {row : List Token → Prop} {fs : List Formula} (h : fs ≠ []) :
    (any fs).holds row ↔ ∃ f ∈ fs, f.holds row := by
  induction fs with
  | nil => exact absurd rfl h
  | cons f rest ih =>
    cases rest with
    | nil => simp [any]
    | cons next rest =>
      have hrest := ih (List.cons_ne_nil next rest)
      simp only [List.exists_mem_cons_iff] at hrest ⊢
      exact or_congr_right hrest

end Formula

/-! ## The reader -/

/-- Tokens in brackets. -/
def bracketed (ts : List Token) : List Token := .sign '(' :: ts ++ [.sign ')']

/-- The part that a token plays in a condition. -/
inductive Token.Kind
  | opening
  | closing
  | conjunction
  | disjunction
  | between
  | plain
deriving DecidableEq, Repr

/-- The part of a token: brackets, connectives in any letter case, and everything else. -/
def Token.kind : Token → Token.Kind
  | .sign c => if c = '(' then .opening else if c = ')' then .closing else .plain
  | .word cs =>
    let word := cs.map Char.toLower
    if word = "and".toList then .conjunction
    else if word = "or".toList then .disjunction
    else if word = "between".toList then .between
    else .plain
  | _ => .plain

/-- An item of a factor: a token, or a condition in brackets with its tokens. -/
inductive Item
  | token (t : Token)
  | group (formula : Formula) (tokens : List Token)

/-- The tokens of an item. -/
def Item.tokens : Item → List Token
  | .token t => [t]
  | .group _ tokens => tokens

/-- The formula of a factor: of brackets what they enclose, otherwise an atomic condition. -/
def factor : List Item → Formula
  | [.group formula _] => formula
  | items => .atom (items.flatMap Item.tokens)

/-- What has been read inside a bracket: the disjuncts and conjuncts that are complete, the
items of the factor that has begun, whether a `between` waits for its `and`, and all tokens. -/
structure Level where
  disjuncts : List Formula
  conjuncts : List Formula
  items : List Item
  pending : Bool
  tokens : List Token

namespace Level

/-- The level of a bracket that has just been opened. -/
def start : Level := ⟨[], [], [], false, []⟩

/-- The level with further items. -/
def extend (l : Level) (items : List Item) : Level :=
  { l with items := l.items ++ items, tokens := l.tokens ++ items.flatMap Item.tokens }

/-- The conjunction that has begun. -/
def conjunction (l : Level) : Formula := .all (l.conjuncts ++ [factor l.items])

/-- The formula of the level. -/
def formula (l : Level) : Formula := .any (l.disjuncts ++ [l.conjunction])

/-- The level after the connective `and`. -/
def nextConjunct (l : Level) (t : Token) : Level :=
  { l with
    conjuncts := l.conjuncts ++ [factor l.items]
    items := []
    tokens := l.tokens ++ [t] }

/-- The level after the connective `or`. -/
def nextDisjunct (l : Level) (t : Token) : Level :=
  { l with
    disjuncts := l.disjuncts ++ [l.conjunction]
    conjuncts := []
    items := []
    tokens := l.tokens ++ [t] }

/-- The level as an item of the level around it. -/
def group (l : Level) : Item := .group l.formula (bracketed l.tokens)

end Level

/-- Read a token.  A bracket that closes none leaves no levels. -/
def readStep : List Level → Token → List Level
  | [], _ => []
  | l :: stack, t =>
    match t.kind, stack with
    | .opening, _ => .start :: l :: stack
    | .closing, [] => []
    | .closing, outer :: stack => outer.extend [l.group] :: stack
    | .between, _ => { l.extend [.token t] with pending := true } :: stack
    | .conjunction, _ =>
      if l.pending then { l.extend [.token t] with pending := false } :: stack
      else l.nextConjunct t :: stack
    | .disjunction, _ => l.nextDisjunct t :: stack
    | .plain, _ => l.extend [.token t] :: stack

/-- The formula of a condition whose brackets match. -/
def read? (tokens : List Token) : Option Formula :=
  match tokens.foldl readStep [.start] with
  | [l] => some l.formula
  | _ => none

/-! ## Operands -/

/-- Tokens among which brackets match. -/
inductive Closed : List Token → Prop
  | nil : Closed []
  | token (t : Token) : t.kind ≠ .opening → t.kind ≠ .closing → Closed [t]
  | append {s t : List Token} : Closed s → Closed t → Closed (s ++ t)
  | brackets {ts : List Token} : Closed ts → Closed (bracketed ts)

/-- Tokens among which brackets match and connectives stand in brackets only. -/
inductive Operand : List Token → Prop
  | nil : Operand []
  | token (t : Token) : t.kind = .plain → Operand [t]
  | append {s t : List Token} : Operand s → Operand t → Operand (s ++ t)
  | brackets {ts : List Token} : Closed ts → Operand (bracketed ts)

namespace Level

@[simp]
theorem extend_tokens (l : Level) (items : List Item) :
    (l.extend items).tokens = l.tokens ++ items.flatMap Item.tokens := rfl

/-- No items leave the level as it is. -/
theorem extend_nil (l : Level) : l.extend [] = l := by
  simp [extend]

/-- Items extend the level one after the other. -/
theorem extend_append (l : Level) (items others : List Item) :
    l.extend (items ++ others) = (l.extend items).extend others := by
  simp [extend]

end Level

variable {s t ts tokens : List Token} {f : Formula}

/-- What is in matching brackets becomes one item of the level around them. -/
theorem foldl_bracketed {l inner : Level} {stack : List Level}
    (h : ts.foldl readStep (.start :: l :: stack) = inner :: l :: stack)
    (htokens : inner.tokens = ts) :
    (bracketed ts).foldl readStep (l :: stack) =
      l.extend [.group inner.formula (bracketed ts)] :: stack := by
  have hopening : readStep (l :: stack) (.sign '(') = .start :: l :: stack := rfl
  have hclosing : readStep (inner :: l :: stack) (.sign ')') =
      l.extend [inner.group] :: stack := rfl
  rw [bracketed, List.cons_append, List.foldl_cons, List.foldl_append, hopening, h,
    List.foldl_cons, hclosing, Level.group, htokens]
  rfl

/-- Matching brackets leave the levels around them alone. -/
theorem Closed.run (h : Closed ts) (l : Level) : ∃ after : Level,
    after.tokens = l.tokens ++ ts ∧
      ∀ stack, ts.foldl readStep (l :: stack) = after :: stack := by
  induction h generalizing l with
  | nil => exact ⟨l, by simp, fun _ => rfl⟩
  | token t hopening hclosing =>
    cases hkind : t.kind with
    | opening => exact absurd hkind hopening
    | closing => exact absurd hkind hclosing
    | plain => exact ⟨l.extend [.token t], rfl, fun stack => by simp [readStep, hkind]⟩
    | between =>
      exact ⟨{ l.extend [.token t] with pending := true }, rfl,
        fun stack => by simp [readStep, hkind]⟩
    | disjunction => exact ⟨l.nextDisjunct t, rfl, fun stack => by simp [readStep, hkind]⟩
    | conjunction =>
      cases hpending : l.pending with
      | true =>
        exact ⟨{ l.extend [.token t] with pending := false }, rfl,
          fun stack => by simp [readStep, hkind, hpending]⟩
      | false =>
        exact ⟨l.nextConjunct t, rfl, fun stack => by simp [readStep, hkind, hpending]⟩
  | append _ _ ihs iht =>
    obtain ⟨middle, hmiddle, hruns⟩ := ihs l
    obtain ⟨after, hafter, hrunt⟩ := iht middle
    refine ⟨after, by rw [hafter, hmiddle, List.append_assoc], fun stack => ?_⟩
    rw [List.foldl_append, hruns, hrunt]
  | @brackets ts _ ih =>
    obtain ⟨inner, hinner, hrun⟩ := ih .start
    have htokens : inner.tokens = ts := by simpa [Level.start] using hinner
    exact ⟨l.extend [.group inner.formula (bracketed ts)], by simp [Item.tokens],
      fun stack => foldl_bracketed (hrun _) htokens⟩

/-- An operand only adds items to the factor in which it stands. -/
theorem Operand.run (h : Operand ts) : ∃ items : List Item,
    items.flatMap Item.tokens = ts ∧
      ∀ l stack, ts.foldl readStep (l :: stack) = l.extend items :: stack := by
  induction h with
  | nil => exact ⟨[], rfl, fun l _ => by rw [l.extend_nil]; rfl⟩
  | token t hplain =>
    exact ⟨[.token t], rfl, fun l stack => by simp [readStep, hplain]⟩
  | append _ _ ihs iht =>
    obtain ⟨first, hfirst, hruns⟩ := ihs
    obtain ⟨second, hsecond, hrunt⟩ := iht
    refine ⟨first ++ second, by rw [List.flatMap_append, hfirst, hsecond], fun l stack => ?_⟩
    rw [List.foldl_append, hruns, hrunt, Level.extend_append]
  | @brackets ts hclosed =>
    obtain ⟨inner, hinner, hrun⟩ := hclosed.run .start
    have htokens : inner.tokens = ts := by simpa [Level.start] using hinner
    exact ⟨[.group inner.formula (bracketed ts)], by simp [Item.tokens],
      fun l stack => foldl_bracketed (hrun _) htokens⟩

/-! ## Factors -/

/-- At the start of a factor the tokens are read as a formula, and nothing else changes. -/
def ReadsAs (ts : List Token) (f : Formula) : Prop :=
  ∃ items : List Item, factor items = f ∧ items.flatMap Item.tokens = ts ∧
    ∀ (l : Level) (stack : List Level), l.items = [] → l.pending = false →
      ts.foldl readStep (l :: stack) = l.extend items :: stack

/-- Inside a bracket the tokens are read as a formula. -/
def Reads (ts : List Token) (f : Formula) : Prop :=
  ∃ after : Level, after.formula = f ∧ after.tokens = ts ∧
    ∀ stack, ts.foldl readStep (.start :: stack) = after :: stack

/-- Tokens that are read as a formula have no other reading. -/
theorem Reads.read?_eq (h : Reads ts f) : read? ts = some f := by
  obtain ⟨after, hformula, _, hrun⟩ := h
  rw [read?, hrun [], ← hformula]

/-- A condition in brackets is a factor. -/
theorem Reads.readsAs (h : Reads ts f) : ReadsAs (bracketed ts) f := by
  obtain ⟨after, hformula, htokens, hrun⟩ := h
  refine ⟨[.group after.formula (bracketed ts)], hformula, by simp [Item.tokens], ?_⟩
  intro l stack _ _
  exact foldl_bracketed (hrun _) htokens

/-- A factor alone is a condition. -/
theorem ReadsAs.reads (h : ReadsAs ts f) : Reads ts f := by
  obtain ⟨items, hfactor, htokens, hrun⟩ := h
  refine ⟨Level.start.extend items, ?_, ?_, fun stack => hrun .start stack rfl rfl⟩
  · simpa [Level.formula, Level.conjunction, Level.start, Level.extend, Formula.any, Formula.all]
      using hfactor
  · simpa [Level.start] using htokens

/-- Items among which there is a token of the factor itself are an atomic condition. -/
theorem factor_of_token {items : List Item} {t : Token} (h : .token t ∈ items) :
    factor items = .atom (items.flatMap Item.tokens) := by
  unfold factor
  split
  · cases List.mem_singleton.mp h
  · rfl

/-- A comparison of operands is a factor. -/
theorem readsAs_comparison {left right : List Token} {op : Token} (hleft : Operand left)
    (hop : op.kind = .plain) (hright : Operand right) :
    ReadsAs (left ++ op :: right) (.atom (left ++ op :: right)) := by
  obtain ⟨before, hbefore, hrunLeft⟩ := hleft.run
  obtain ⟨after, hafter, hrunRight⟩ := hright.run
  have htokens : (before ++ .token op :: after).flatMap Item.tokens = left ++ op :: right := by
    simp [hbefore, hafter, Item.tokens]
  refine ⟨before ++ .token op :: after, ?_, htokens, fun l stack _ _ => ?_⟩
  · rw [factor_of_token (t := op) (by simp), htokens]
  · have hstep : readStep (l.extend before :: stack) op =
        (l.extend before).extend [.token op] :: stack := by
      simp [readStep, hop]
    rw [List.foldl_append, hrunLeft, List.foldl_cons, hstep, hrunRight, ← Level.extend_append,
      ← Level.extend_append]
    rfl

/-- The test whether an operand lies between two others is a factor. -/
theorem readsAs_between {left low high : List Token} {op conj : Token} (hleft : Operand left)
    (hop : op.kind = .between) (hlow : Operand low) (hconj : conj.kind = .conjunction)
    (hhigh : Operand high) :
    ReadsAs (left ++ op :: low ++ conj :: high) (.atom (left ++ op :: low ++ conj :: high)) := by
  obtain ⟨before, hbefore, hrunLeft⟩ := hleft.run
  obtain ⟨first, hfirst, hrunLow⟩ := hlow.run
  obtain ⟨second, hsecond, hrunHigh⟩ := hhigh.run
  have htokens : (before ++ .token op :: first ++ .token conj :: second).flatMap Item.tokens =
      left ++ op :: low ++ conj :: high := by
    simp [hbefore, hfirst, hsecond, Item.tokens]
  refine ⟨before ++ .token op :: first ++ .token conj :: second, ?_, htokens,
    fun l stack _ hpending => ?_⟩
  · rw [factor_of_token (t := op) (by simp), htokens]
  · rw [List.foldl_append, List.foldl_append, hrunLeft, List.foldl_cons, List.foldl_cons]
    have hbetween : readStep (l.extend before :: stack) op =
        { (l.extend before).extend [.token op] with pending := true } :: stack := by
      simp [readStep, hop]
    rw [hbetween, hrunLow]
    have hand : readStep (Level.extend
        { (l.extend before).extend [.token op] with pending := true } first :: stack) conj =
        l.extend (before ++ .token op :: first ++ [.token conj]) :: stack := by
      simp [readStep, hconj, Level.extend, hpending, Item.tokens]
    rw [hand, hrunHigh, ← Level.extend_append]
    simp

/-! ## Connectives -/

/-- Factors joined by `and` make up the conjunction of the level. -/
theorem run_conjunction {conj : Token} (hconj : conj.kind = .conjunction)
    {factors : List (List Token × Formula)} (hne : factors ≠ [])
    (h : ∀ x ∈ factors, ReadsAs x.1 x.2) {l : Level} (hitems : l.items = [])
    (hpending : l.pending = false) : ∃ after : Level,
      after.conjunction = .all (l.conjuncts ++ factors.map Prod.snd) ∧
      after.disjuncts = l.disjuncts ∧ after.pending = false ∧
      after.tokens = l.tokens ++ [conj].intercalate (factors.map Prod.fst) ∧
      ∀ stack, ([conj].intercalate (factors.map Prod.fst)).foldl readStep (l :: stack) =
        after :: stack := by
  induction factors generalizing l with
  | nil => exact absurd rfl hne
  | cons x rest ih =>
    obtain ⟨items, hfactor, htokens, hrun⟩ := h x (List.mem_cons_self ..)
    cases rest with
    | nil =>
      refine ⟨l.extend items, ?_, rfl, hpending, ?_, fun stack => ?_⟩
      · simp [Level.conjunction, Level.extend, hitems, hfactor]
      · simp [htokens]
      · simpa using hrun l stack hitems hpending
    | cons next rest =>
      let following := (l.extend items).nextConjunct conj
      obtain ⟨after, hconjunction, hdisjuncts, hafter, htoks, hruns⟩ :=
        ih (List.cons_ne_nil _ _) (fun y hy => h y (List.mem_cons_of_mem _ hy))
          (l := following) rfl hpending
      have hconjuncts : following.conjuncts = l.conjuncts ++ [x.2] := by
        simp [following, Level.nextConjunct, Level.extend, hitems, hfactor]
      refine ⟨after, ?_, hdisjuncts, hafter, ?_, fun stack => ?_⟩
      · rw [hconjunction, hconjuncts]
        simp
      · rw [htoks]
        simp [following, Level.nextConjunct, htokens, List.intercalate_cons_cons]
      · have hand : readStep (l.extend items :: stack) conj = following :: stack := by
          have hnot : (l.extend items).pending = false := hpending
          simp [readStep, hconj, hnot, following]
        simp only [List.map_cons, List.intercalate_cons_cons] at hruns ⊢
        rw [List.append_assoc, List.foldl_append, hrun l stack hitems hpending,
          List.singleton_append, List.foldl_cons, hand]
        exact hruns stack

/-- The tokens of factors joined by `and`. -/
def conjoined (conj : Token) (factors : List (List Token × Formula)) : List Token :=
  [conj].intercalate (factors.map Prod.fst)

/-- Conjunctions joined by `or` make up the formula of the level. -/
theorem run_disjunction {conj disj : Token} (hconj : conj.kind = .conjunction)
    (hdisj : disj.kind = .disjunction) {groups : List (List (List Token × Formula))}
    (hne : groups ≠ [])
    (h : ∀ factors ∈ groups, factors ≠ [] ∧ ∀ x ∈ factors, ReadsAs x.1 x.2) {l : Level}
    (hconjuncts : l.conjuncts = []) (hitems : l.items = []) (hpending : l.pending = false) :
    ∃ after : Level,
      after.formula =
        .any (l.disjuncts ++ groups.map fun factors => .all (factors.map Prod.snd)) ∧
      after.tokens = l.tokens ++ [disj].intercalate (groups.map (conjoined conj)) ∧
      ∀ stack, ([disj].intercalate (groups.map (conjoined conj))).foldl readStep (l :: stack) =
        after :: stack := by
  induction groups generalizing l with
  | nil => exact absurd rfl hne
  | cons factors rest ih =>
    obtain ⟨hfactors, hreads⟩ := h factors (List.mem_cons_self ..)
    obtain ⟨middle, hconjunction, hdisjuncts, hmiddle, htokens, hrun⟩ :=
      run_conjunction hconj hfactors hreads hitems hpending
    rw [hconjuncts, List.nil_append] at hconjunction
    cases rest with
    | nil =>
      refine ⟨middle, ?_, ?_, fun stack => ?_⟩
      · rw [Level.formula, hconjunction, hdisjuncts]
        rfl
      · simpa [conjoined] using htokens
      · simpa [conjoined] using hrun stack
    | cons next rest =>
      let following := middle.nextDisjunct disj
      obtain ⟨after, hformula, htoks, hruns⟩ :=
        ih (List.cons_ne_nil _ _) (fun fs hfs => h fs (List.mem_cons_of_mem _ hfs))
          (l := following) rfl rfl hmiddle
      have hfollowing : following.disjuncts = l.disjuncts ++ [.all (factors.map Prod.snd)] := by
        simp [following, Level.nextDisjunct, hconjunction, hdisjuncts]
      refine ⟨after, ?_, ?_, fun stack => ?_⟩
      · rw [hformula, hfollowing]
        simp
      · rw [htoks]
        simp [following, Level.nextDisjunct, htokens, conjoined, List.intercalate_cons_cons]
      · have hor : readStep (middle :: stack) disj = following :: stack := by
          simp [readStep, hdisj, following]
        have hfirst : (conjoined conj factors).foldl readStep (l :: stack) = middle :: stack :=
          hrun stack
        simp only [List.map_cons, List.intercalate_cons_cons] at hruns ⊢
        rw [List.append_assoc, List.foldl_append, hfirst, List.singleton_append, List.foldl_cons,
          hor]
        exact hruns stack

/-- Factors joined by `and` and then by `or` are a disjunction of conjunctions. -/
theorem reads_disjunction {conj disj : Token} (hconj : conj.kind = .conjunction)
    (hdisj : disj.kind = .disjunction) {groups : List (List (List Token × Formula))}
    (hne : groups ≠ [])
    (h : ∀ factors ∈ groups, factors ≠ [] ∧ ∀ x ∈ factors, ReadsAs x.1 x.2) :
    Reads ([disj].intercalate (groups.map (conjoined conj)))
      (.any (groups.map fun factors => .all (factors.map Prod.snd))) := by
  obtain ⟨after, hformula, htokens, hrun⟩ :=
    run_disjunction hconj hdisj hne h (l := .start) rfl rfl rfl
  exact ⟨after, hformula, htokens, hrun⟩

end EntityMapping
