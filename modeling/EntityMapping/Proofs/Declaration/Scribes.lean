import Mathlib
import EntityMapping.Declaration.Phrase
import EntityMapping.Proofs.Declaration.Nesting

/-!
# Scribes and brackets

What a scribe reads and what it writes do the same to the open brackets.  Most scribes leave
them as they are, wherever they stand or within a group; the marks of less and greater open and
close one.  These are the laws of the scribes that all phrases are made of.

Main results:

- `Since.trans`, `Since.closed`, `Since.enclosed`: what was read and written, put together.
- `mark_spec`: an operator does to the open brackets what its marks do.
- `enclosed_keeps`, `angled_keeps`: what stands between brackets, with them.
- `commaList_spec`, `repeatWhile_spec`: a loop leaves the brackets as its step does.
- `Keeps.since_run`: what the law of a scribe says of one of its runs.
-/

set_option mvcgen.warning false

namespace EntityMapping.Declaration

open Std.Do

/-! ## Between two desks -/

/-- What was read and what was written between two desks is as told. -/
def Since (told : Tokens → Prop) (o d : Desk) : Prop :=
  ∃ read written : Tokens, o.rest = read ++ d.rest ∧ d.written = written.reverse ++ o.written ∧
    told read ∧ told written

/-- Nothing happens between a desk and itself. -/
@[grind ←]
theorem Since.refl (anywhere : Bool) (d : Desk) : Since (Level anywhere) d d :=
  ⟨[], [], rfl, rfl, Level.nil anywhere, Level.nil anywhere⟩

/-- What was told of two stretches, put together. -/
theorem Since.append {p q r : Tokens → Prop} (h : ∀ {xs ys}, p xs → q ys → r (xs ++ ys))
    {d₁ d₂ d₃ : Desk} (h₁ : Since p d₁ d₂) (h₂ : Since q d₂ d₃) : Since r d₁ d₃ := by
  obtain ⟨read₁, written₁, hrest₁, hwritten₁, hp, hp'⟩ := h₁
  obtain ⟨read₂, written₂, hrest₂, hwritten₂, hq, hq'⟩ := h₂
  exact ⟨read₁ ++ read₂, written₁ ++ written₂, by simp [hrest₁, hrest₂],
    by simp [hwritten₁, hwritten₂], h hp hq, h hp' hq'⟩

/-- Two level stretches make a level one. -/
@[grind →]
theorem Since.trans {a b : Bool} {d₁ d₂ d₃ : Desk} (h₁ : Since (Level a) d₁ d₂)
    (h₂ : Since (Level b) d₂ d₃) : Since (Level (a && b)) d₁ d₃ :=
  .append Level.append h₁ h₂

/-- A level stretch behind an opening angle leaves it open. -/
@[grind →]
theorem Since.opens_trans {d₁ d₂ d₃ : Desk} (h₁ : Since OpensAngle d₁ d₂)
    (h₂ : Since (Level true) d₂ d₃) : Since OpensAngle d₁ d₃ :=
  .append OpensAngle.append h₁ h₂

/-- A stretch that opens an angle and one that closes it make a level one. -/
@[grind →]
theorem Since.closed {d₁ d₂ d₃ : Desk} (h₁ : Since OpensAngle d₁ d₂)
    (h₂ : Since ClosesAngle d₂ d₃) : Since (Level true) d₁ d₃ :=
  .append OpensAngle.closed h₁ h₂

/-- What is told of a stretch may be weakened. -/
theorem Since.imp {p q : Tokens → Prop} (h : ∀ {ts}, p ts → q ts) {d₁ d₂ : Desk}
    (hp : Since p d₁ d₂) : Since q d₁ d₂ := by
  obtain ⟨read, written, hrest, hwritten, hread, hwrote⟩ := hp
  exact ⟨read, written, hrest, hwritten, h hread, h hwrote⟩

/-- A stretch that is level anywhere is level within a group. -/
@[grind →]
theorem Since.within {a : Bool} {d₁ d₂ : Desk} (h : Since (Level a) d₁ d₂) :
    Since (Level false) d₁ d₂ := h.imp Level.within

/-- One token was copied between two desks. -/
def Copied (o d : Desk) : Prop := ∃ t, o.rest = t :: d.rest ∧ d.written = t :: o.written

/-- Copying takes one token from the front. -/
@[grind →]
theorem Copied.rest_eq {o d : Desk} (h : Copied o d) : d.rest = o.rest.drop 1 := by
  obtain ⟨t, hrest, _⟩ := h
  simp [hrest]

/-- Whether the tokens begin with one that is no bracket of any kind and begins no arrow. -/
def seesPlain (ts : Tokens) : Bool := ts.head?.any Token.isPlain

/-- Copying a plain token leaves the open brackets as they are. -/
@[grind →]
theorem Copied.since {o d : Desk} (h : Copied o d) (plain : seesPlain o.rest = true) :
    Since (Level true) o d := by
  obtain ⟨t, hrest, hwritten⟩ := h
  have single : Level true [t] := Level.of_isPlain (by simpa [seesPlain, hrest] using plain)
  exact ⟨[t], [t], by simp [hrest], by simp [hwritten], single, single⟩

/-! ## Operators -/

/-- Whether an operator is no angle bracket and holds no part of one or of an arrow. -/
@[grind =]
def isPlainOperator (operator : String) : Bool :=
  operator.toList.all fun c => c ∉ ['<', '>', '-']

/-- Whether an operator leaves the open brackets as they are. -/
@[grind =]
def isLevelOperator (operator : String) : Bool :=
  operator.toList == ['-', '>'] || isPlainOperator operator

/-- What an operator does to the open brackets. -/
def operatorEffect (operator : String) : Tokens → Prop :=
  if operator = "<" then OpensAngle
  else if operator = ">" then ClosesAngle
  else Level (isLevelOperator operator)

/-- If an operator is seen, the tokens ahead are its marks. -/
theorem isMark_of_beginsWith {cs : List Char} {ts : Tokens} (h : beginsWith cs ts = true) :
    ∀ t ∈ ts.take cs.length, ∃ c ∈ cs, t.isMark c = true := by
  fun_induction beginsWith cs ts with
  | case1 => simp
  | case2 => simpa using h
  | case3 => simp_all [Token.isMark]
  | case4 => cases h

/-- If an operator of one character is seen, its mark is ahead. -/
theorem exists_of_beginsWith_singleton {c : Char} {ts : Tokens}
    (h : beginsWith [c] ts = true) : ∃ t rest, ts = t :: rest ∧ t.isMark c = true := by
  cases ts with
  | nil => cases h
  | cons t rest => exact ⟨t, rest, rfl, h⟩

/-- If an arrow is seen, its two marks are ahead and joined. -/
theorem exists_of_seesArrow {ts : Tokens} (h : seesMark "->" ts = true) :
    ∃ t rest, ts = .joined "-" :: t :: rest ∧ t.isMark '>' = true := by
  change beginsWith ['-', '>'] ts = true at h
  match ts, h with
  | .joined s :: t :: rest, h =>
    obtain ⟨hs, ht⟩ := Bool.and_eq_true_iff.mp h
    exact ⟨t, rest, by simp [beq_iff_eq.mp hs], ht⟩
  | [.joined s], h => simp [beginsWith] at h

/-- A mark that is no part of an angle or an arrow is plain. -/
theorem Token.isPlain_of_isMark {c : Char} {t : Token} (h : t.isMark c = true)
    (plain : c ∉ ['<', '>', '-']) : t.isPlain = true := by
  have noDash : String.singleton c ≠ String.singleton '-' := by
    intro e
    exact plain (by simp [String.singleton_inj.mp e])
  cases t <;> simp_all [Token.isMark, Token.isPlain, ← String.toList_inj]

/-- A mark of one character is a mark. -/
theorem Token.isAnyMark_of_isMark {c : Char} {t : Token} (h : t.isMark c = true) :
    t.isAnyMark = true := by
  cases t <;> simp_all [Token.isMark, Token.isAnyMark]

/-- The marks that make up an operator do to the open brackets what the operator does. -/
theorem operatorEffect_take {operator : String} {ts : Tokens}
    (h : seesMark operator ts = true) : operatorEffect operator (ts.take operator.length) := by
  have marks := isMark_of_beginsWith h
  rw [String.length_toList] at marks
  rw [operatorEffect]
  split
  next e =>
    subst e
    obtain ⟨t, rest, rfl, ht⟩ := exists_of_beginsWith_singleton h
    exact OpensAngle.of_isMark ht
  split
  next e =>
    subst e
    obtain ⟨t, rest, rfl, ht⟩ := exists_of_beginsWith_singleton h
    exact ClosesAngle.of_isMark ht
  by_cases arrow : operator = "->"
  · subst arrow
    obtain ⟨t, rest, rfl, ht⟩ := exists_of_seesArrow h
    exact Level.arrow ht
  by_cases plain : isPlainOperator operator = true
  · refine Level.of_forall fun t ht => (Level.of_isPlain ?_).anywhere _
    obtain ⟨c, hc, hmark⟩ := marks t ht
    exact Token.isPlain_of_isMark hmark (of_decide_eq_true (List.all_eq_true.mp plain c hc))
  · have noArrow : operator.toList ≠ ['-', '>'] := fun e =>
      arrow (String.toList_inj.mp (e.trans (by decide)))
    have within : isLevelOperator operator = false := by
      simp [isLevelOperator, noArrow, plain]
    refine within ▸ Level.of_forall fun t ht => ?_
    obtain ⟨c, _, hmark⟩ := marks t ht
    exact Level.of_isAnyMark (Token.isAnyMark_of_isMark hmark)

/-- The operator as one mark. -/
theorem operatorEffect_mark (operator : String) : operatorEffect operator [.mark operator] := by
  rw [operatorEffect]
  split
  next e => exact OpensAngle.of_isMark (by simp [e, Token.isMark])
  split
  next e => exact ClosesAngle.of_isMark (by simp [e, Token.isMark])
  next less greater =>
    refine (Level.of_isPlain ?_).anywhere _
    simp [Token.isPlain, Token.isMark, less, greater]

/-- An operator is level as far as it is a level operator. -/
theorem level_of_operatorEffect {operator : String} {ts : Tokens}
    (h : operatorEffect operator ts) : Level (isLevelOperator operator) ts := by
  rw [operatorEffect] at h
  split at h
  next e => exact e ▸ h.1
  split at h
  next e => exact e ▸ h.1
  next => exact h

/-- A stretch with one operator is level as far as the operator is. -/
theorem Since.of_operator {operator : String} {d₁ d₂ : Desk}
    (h : Since (operatorEffect operator) d₁ d₂) : Since (Level (isLevelOperator operator)) d₁ d₂ :=
  h.imp level_of_operatorEffect

/-! ## Tokens that are copied -/

/-- A word is plain. -/
@[grind →]
theorem seesPlain_of_seesWord {w : String} {ts : Tokens} (h : seesWord w ts = true) :
    seesPlain ts = true := by
  simp_all [seesWord, seesPlain, Token.isPlain, Token.isMark]

/-- A lifetime is plain. -/
@[grind →]
theorem seesPlain_of_seesLifetime {ts : Tokens} (h : seesLifetime ts = true) :
    seesPlain ts = true := by
  cases ts with
  | nil => cases h
  | cons t => cases t <;> simp_all [seesLifetime, seesPlain, Token.isPlain, Token.isMark]

/-- What may stand in a group may stand anywhere with brackets around it. -/
@[grind →]
theorem Since.enclosed {b b' : Bracket} {a : Bool} {d₁ d₂ d₃ d₄ : Desk}
    (opened : seesOpening b d₁.rest = true) (h₁ : Copied d₁ d₂) (h₂ : Since (Level a) d₂ d₃)
    (closed : (d₃.rest.head? == some (.closing b')) = true) (h₃ : Copied d₃ d₄) :
    Since (Level true) d₁ d₄ := by
  obtain ⟨t, hrest₁, hwritten₁⟩ := h₁
  obtain ⟨read, written, hrest₂, hwritten₂, hread, hwrote⟩ := h₂
  obtain ⟨u, hrest₃, hwritten₃⟩ := h₃
  obtain rfl : t = .opening b := by simpa [seesOpening, hrest₁] using opened
  obtain rfl : u = .closing b' := by simpa [hrest₃] using closed
  exact ⟨.opening b :: read ++ [.closing b'], .opening b :: written ++ [.closing b'],
    by simp [hrest₁, hrest₂, hrest₃], by simp [hwritten₁, hwritten₂, hwritten₃],
    hread.group b b', hwrote.group b b'⟩

/-- A group that is copied as it stands. -/
@[grind →]
theorem Since.group {b : Bracket} {d : Desk} {ts inside rest : Tokens}
    (opened : d.rest = .opening b :: ts) (split : splitGroup 0 ts = some (inside, rest)) :
    Since (Level true) d ⟨rest, (.opening b :: inside).reverse ++ d.written⟩ := by
  obtain ⟨rfl, hrun⟩ := splitGroup_run split
  have level : Level true (.opening b :: inside) := by
    intro groups angles _
    simpa [Nesting.step] using hrun groups angles
  exact ⟨.opening b :: inside, .opening b :: inside, by simp [opened], rfl, level, level⟩

/-! ## Tokens set aside -/

/-- What is told of a stretch from an empty desk is told of all that was written. -/
@[grind →]
theorem Since.setAside {p : Tokens → Prop} {ts : Tokens} {d : Desk} (h : Since p ⟨ts, []⟩ d) :
    p d.written.reverse := by
  obtain ⟨read, written, _, hwritten, _, hwrote⟩ := h
  simpa [hwritten] using hwrote

/-- What was read aside may be left unwritten. -/
theorem Since.unwritten {anywhere : Bool} {o d : Desk}
    (h : Since (Level anywhere) ⟨o.rest, []⟩ d) :
    Since (Level anywhere) o ⟨d.rest, o.written⟩ := by
  obtain ⟨read, written, hrest, _, hread, _⟩ := h
  exact ⟨read, [], hrest, rfl, hread, Level.nil anywhere⟩

/-- Level tokens may be written on top. -/
theorem Since.writeAll {anywhere : Bool} {o d : Desk} {ts : Tokens}
    (h : Since (Level anywhere) o d) (level : Level anywhere ts) :
    Since (Level anywhere) o ⟨d.rest, ts.reverse ++ d.written⟩ := by
  have wrote : Since (Level anywhere) d ⟨d.rest, ts.reverse ++ d.written⟩ :=
    ⟨[], ts, rfl, rfl, Level.nil anywhere, level⟩
  simpa using h.trans wrote

/-- The tokens that were read are those before the ones that are left. -/
theorem Since.take {p : Tokens → Prop} {o d : Desk} (h : Since p o d) :
    p (o.rest.take (o.rest.length - d.rest.length)) := by
  obtain ⟨read, written, hrest, _, hread, _⟩ := h
  simpa [hrest] using hread

namespace Scribe

/-- A scribe that leaves the open brackets as they are, within a group at least. -/
abbrev Keeps (anywhere : Bool) (o : Desk) (s : Scribe α) : Prop :=
  ⦃fun d => ⌜Since (Level anywhere) o d⌝⦄ s ⦃⇓? _ d => ⌜Since (Level anywhere) o d⌝⦄

variable {o : Desk}

/-- What holds of the desk that a scribe leaves by its law. -/
theorem of_run {α : Type} {s : Scribe α} {p : Desk → Prop} {d : Desk} {a : α}
    (h : ⦃fun d => ⌜d = o⌝⦄ s ⦃⇓? _ d => ⌜p d⌝⦄) (run : s.run o = some (a, d)) : p d := by
  refine Option.of_wp_eq run (fun r => ∀ x ∈ r, p x.2) ?_ (a, d) rfl
  rw [WP.StateT_run]
  simpa using! h o rfl

/-- The law of a scribe, said of one of its runs. -/
theorem Keeps.since_run {α : Type} {anywhere : Bool} {s : Scribe α} {d : Desk} {a : α}
    (h : ∀ o, Keeps anywhere o s) (run : s.run o = some (a, d)) : Since (Level anywhere) o d := by
  refine of_run ?_ run
  mvcgen [h]
  grind

/-- What a scribe does from a desk on, said of every earlier desk. -/
theorem keeps_of_start {anywhere : Bool} {p : Tokens → Prop} {s : Scribe α}
    (h : ∀ o : Desk, p o.rest →
      ⦃fun d => ⌜d = o⌝⦄ s ⦃⇓? _ d => ⌜Since (Level anywhere) o d⌝⦄) :
    ⦃fun d => ⌜Since (Level anywhere) o d ∧ p d.rest⌝⦄ s
    ⦃⇓? _ d => ⌜Since (Level anywhere) o d⌝⦄ := by
  intro d hd
  have post : (⇓? _ e => ⌜Since (Level anywhere) d e⌝ :
      PostCond α (.arg Desk (.except PUnit .pure))) ⊢ₚ
        (⇓? _ e => ⌜Since (Level anywhere) o e⌝) :=
    ⟨fun _ e he => by simpa using hd.1.trans he, ExceptConds.entails.refl _⟩
  exact (wp s).mono _ _ post d (h d hd.2 d rfl)

/-! ## Steps -/

/-- The tokens ahead are looked at, and none is taken. -/
@[spec]
theorem rest_spec {Q : PostCond Tokens (.arg Desk (.except PUnit .pure))} :
    ⦃fun d => Q.1 d.rest d⦄ rest ⦃Q⦄ := by
  mvcgen [rest]

/-- Looking ahead changes nothing. -/
@[spec]
theorem sees_spec {p : Tokens → Bool} {Q : PostCond Bool (.arg Desk (.except PUnit .pure))} :
    ⦃fun d => Q.1 (p d.rest) d⦄ sees p ⦃Q⦄ := by
  mvcgen [sees]

/-- A scribe that fails promises everything. -/
@[spec]
theorem failure_spec {Q : PostCond α (.arg Desk (.except PUnit .pure))} :
    ⦃fun _ => Q.2.1 ⟨⟩⦄ (failure : Scribe α) ⦃Q⦄ := by
  mvcgen [failure, StateT.failure]

/-- What is expected was seen, and nothing is taken. -/
@[spec]
theorem expect_spec {o : Desk} {p : Tokens → Bool} :
    ⦃fun d => ⌜d = o⌝⦄ expect p ⦃⇓? _ d => ⌜d = o ∧ p d.rest = true⌝⦄ := by
  mvcgen [expect]

/-- Writing puts one token on top. -/
theorem write_spec {o : Desk} {t : Token} :
    ⦃fun d => ⌜d = o⌝⦄ write t ⦃⇓? _ d => ⌜d = ⟨o.rest, t :: o.written⟩⌝⦄ := by
  mvcgen [write]
  grind

/-- Writing tokens puts them on top in order. -/
theorem writeAll_spec {o : Desk} {ts : Tokens} :
    ⦃fun d => ⌜d = o⌝⦄ writeAll ts ⦃⇓? _ d => ⌜d = ⟨o.rest, ts.reverse ++ o.written⟩⌝⦄ := by
  mvcgen [writeAll]
  grind

/-- Writing a plain token leaves the open brackets as they are. -/
theorem write_keeps {t : Token} (h : t.isPlain = true) : Keeps true o (write t) := by
  have wrote (d : Desk) : Since (Level true) d ⟨d.rest, t :: d.written⟩ :=
    ⟨[], [t], rfl, rfl, Level.nil true, Level.of_isPlain h⟩
  mvcgen [write_spec]
  grind

/-- Writing level tokens leaves the open brackets as they are. -/
theorem writeAll_keeps {ts : Tokens} (h : Level true ts) : Keeps true o (writeAll ts) := by
  mvcgen [writeAll_spec]
  grind [→ Since.writeAll]

/-- Copying moves one token. -/
@[spec]
theorem copy_spec {o : Desk} : ⦃fun d => ⌜d = o⌝⦄ copy ⦃⇓? _ d => ⌜Copied o d⌝⦄ := by
  mvcgen [copy, next, write_spec]
  grind [Copied]

/-- Taking a plain token leaves the open brackets as they are. -/
theorem next_keeps :
    ⦃fun d => ⌜Since (Level true) o d ∧ seesPlain d.rest = true⌝⦄ next
    ⦃⇓? _ d => ⌜Since (Level true) o d⌝⦄ := by
  mvcgen [next]
  next start kept t rest hrest _ =>
    have level : Level true [t] := Level.of_isPlain (by simpa [seesPlain, hrest] using kept.2)
    have read : Since (Level true) start ⟨rest, start.written⟩ :=
      ⟨[t], [], by simp [hrest], rfl, level, Level.nil true⟩
    exact kept.1.trans read

/-- Dropping an operator takes its marks and writes nothing. -/
theorem drop_spec {o : Desk} {operator : String} :
    ⦃fun d => ⌜d = o⌝⦄ drop operator
    ⦃⇓? _ d => ⌜seesMark operator o.rest = true ∧
      d = ⟨o.rest.drop operator.length, o.written⟩⌝⦄ := by
  mvcgen [drop]
  grind

/-- Reading and writing an operator does to the open brackets what the operator does. -/
theorem mark_spec {operator : String} :
    ⦃fun d => ⌜d = o⌝⦄ mark operator
    ⦃⇓? _ d => ⌜Since (operatorEffect operator) o d⌝⦄ := by
  mvcgen [mark, drop_spec, write_spec]
  next start atStart _ _ dropped _ _ =>
    rintro rfl
    obtain ⟨sees, rfl⟩ := dropped
    subst atStart
    exact ⟨start.rest.take operator.length, [.mark operator], by simp, by simp,
      operatorEffect_take sees, operatorEffect_mark operator⟩

/-- The operator of less opens an angle. -/
theorem mark_opens : ⦃fun d => ⌜d = o⌝⦄ mark "<" ⦃⇓? _ d => ⌜Since OpensAngle o d⌝⦄ := mark_spec

/-- The operator of greater closes an angle. -/
theorem mark_closes : ⦃fun d => ⌜d = o⌝⦄ mark ">" ⦃⇓? _ d => ⌜Since ClosesAngle o d⌝⦄ := mark_spec

/-- Every operator is level within a group. -/
theorem mark_within {operator : String} : Keeps false o (mark operator) := by
  mvcgen [mark_spec]
  grind [→ Since.of_operator]

/-- A level operator leaves the open brackets as they are. -/
theorem mark_keeps {operator : String} (h : isLevelOperator operator = true) :
    Keeps true o (mark operator) := by
  mvcgen [mark_spec]
  grind [→ Since.of_operator]

/-- An operator that may be missing is level within a group. -/
theorem mark?_within {operator : String} : Keeps false o (mark? operator) := by
  mvcgen [mark?, mark_within] <;> grind

/-- A level operator that may be missing leaves the open brackets as they are. -/
theorem mark?_keeps {operator : String} (h : isLevelOperator operator = true) :
    Keeps true o (mark? operator) := by
  mvcgen [mark?, mark_keeps] <;> grind

/-- Reading an operator that is no bracket. -/
theorem drop_keeps {operator : String} (h : isLevelOperator operator = true) :
    Keeps true o (drop operator) := by
  mvcgen [drop_spec]
  next start kept _ _ =>
    rintro sees rfl
    have read : Since (Level true) start ⟨start.rest.drop operator.length, start.written⟩ :=
      ⟨start.rest.take operator.length, [], by simp, by simp,
        h ▸ level_of_operatorEffect (operatorEffect_take sees), Level.nil _⟩
    exact kept.trans read

/-! ## Words -/

/-- A word leaves the open brackets as they are. -/
@[spec]
theorem word_keeps {w : String} : Keeps true o (word w) := by
  mvcgen [word]
  grind

/-- A word that may be missing leaves the open brackets as they are. -/
@[spec]
theorem word?_keeps {w : String} : Keeps true o (word? w) := by
  mvcgen [word?]
  grind

/-- A lifetime leaves the open brackets as they are. -/
@[spec]
theorem lifetime_spec : Keeps true o lifetime := by
  mvcgen [lifetime]
  grind

/-! ## Groups -/

/-- What stands in brackets may stand in a group, so that with its brackets it may stand
anywhere. -/
theorem enclosed_keeps {b : Bracket} {content : Scribe α} (h : ∀ o, Keeps false o content) :
    Keeps true o (enclosed b content) := by
  mvcgen [enclosed, h] <;> grind

/-- A group that is copied is closed again. -/
@[spec]
theorem copyGroup_keeps : Keeps true o copyGroup := by
  mvcgen [copyGroup, writeAll_spec]
  grind

/-! ## Repetition -/

section

variable {anywhere : Bool}

/-- Steps that leave the open brackets as they are do so however many there are. -/
theorem iterate_spec {step : Scribe Bool} (h : ∀ o, Keeps anywhere o step) (n : Nat) :
    Keeps anywhere o (iterate step n) := by
  induction n generalizing o with
  | zero => mvcgen [iterate]
  | succ n ih => mvcgen [iterate, h, ih] <;> grind

/-- A loop leaves the brackets as its step does. -/
theorem repeatWhile_spec {step : Scribe Bool} (h : ∀ o, Keeps anywhere o step) :
    Keeps anywhere o (repeatWhile step) := by
  mvcgen [repeatWhile, iterate_spec, h]

/-- A list with commas leaves the brackets as its items do. -/
theorem commaList_spec {atEnd : Tokens → Bool} {item : Scribe Unit}
    (h : ∀ o, Keeps anywhere o item) : Keeps anywhere o (commaList atEnd item) := by
  refine repeatWhile_spec fun o => ?_
  have comma : ∀ o, Keeps anywhere o (mark ",") := by
    intro o
    cases anywhere
    · exact mark_within
    · exact mark_keeps (by decide)
  mvcgen [h, comma] <;> grind

end

/-- A loop of steps that are level anywhere is level anywhere. -/
theorem repeatWhile_keeps {step : Scribe Bool} (h : ∀ o, Keeps true o step) :
    Keeps true o (repeatWhile step) := repeatWhile_spec h

/-- A loop of steps that are level within a group is level there. -/
theorem repeatWhile_within {step : Scribe Bool} (h : ∀ o, Keeps false o step) :
    Keeps false o (repeatWhile step) := repeatWhile_spec h

/-- A list of items that are level anywhere is level anywhere. -/
theorem commaList_keeps {atEnd : Tokens → Bool} {item : Scribe Unit}
    (h : ∀ o, Keeps true o item) : Keeps true o (commaList atEnd item) := commaList_spec h

/-- A list of items that are level within a group is level there. -/
theorem commaList_within {atEnd : Tokens → Bool} {item : Scribe Unit}
    (h : ∀ o, Keeps false o item) : Keeps false o (commaList atEnd item) := commaList_spec h

/-! ## Setting aside -/

section

variable {anywhere : Bool}

/-- What is set aside is level, and so is what was read for it. -/
theorem aside_spec {s : Scribe α}
    (h : ⦃fun d => ⌜d = ⟨o.rest, []⟩⌝⦄ s ⦃⇓? _ d => ⌜Since (Level anywhere) ⟨o.rest, []⟩ d⌝⦄) :
    ⦃fun d => ⌜d = o⌝⦄ aside s
    ⦃⇓? r d => ⌜Since (Level anywhere) o d ∧ Level anywhere r.2⌝⦄ := by
  mvcgen [aside, h]
  case vc1 => grind
  case vc2.post.success start atStart _ after written =>
    subst atStart
    exact ⟨written.unwritten, written.setAside⟩

/-- What is copied as it stands on a condition leaves the brackets as the scribe did that read
it. -/
theorem verbatimIf_spec {s : Scribe Bool}
    (h : ⦃fun d => ⌜d = ⟨o.rest, []⟩⌝⦄ s ⦃⇓? _ d => ⌜Since (Level anywhere) ⟨o.rest, []⟩ d⌝⦄) :
    ⦃fun d => ⌜d = o⌝⦄ verbatimIf s ⦃⇓? _ d => ⌜Since (Level anywhere) o d⌝⦄ := by
  mvcgen [verbatimIf, aside_spec, h, writeAll_spec]
  case vc2 => grind
  case vc3 => grind
  case vc4 before atStart r after read _ _ =>
    rintro rfl
    refine atStart ▸ read.1.writeAll ?_
    split
    · exact read.1.take
    · exact read.2

/-- What is copied as it stands leaves the brackets as the scribe did that read it. -/
theorem verbatim_spec {p : Tokens → Prop} {s : Scribe Unit}
    (h : ∀ ts, p ts →
      ⦃fun d => ⌜d = ⟨ts, []⟩⌝⦄ s ⦃⇓? _ d => ⌜Since (Level anywhere) ⟨ts, []⟩ d⌝⦄) :
    ⦃fun d => ⌜Since (Level anywhere) o d ∧ p d.rest⌝⦄ verbatim s
    ⦃⇓? _ d => ⌜Since (Level anywhere) o d⌝⦄ := by
  refine keeps_of_start fun o ho => ?_
  have start := h o.rest ho
  mvcgen [verbatim, verbatimIf_spec, start]

end

/-- What is set aside anywhere is level anywhere. -/
theorem aside_keeps {s : Scribe α}
    (h : ⦃fun d => ⌜d = ⟨o.rest, []⟩⌝⦄ s ⦃⇓? _ d => ⌜Since (Level true) ⟨o.rest, []⟩ d⌝⦄) :
    ⦃fun d => ⌜d = o⌝⦄ aside s ⦃⇓? r d => ⌜Since (Level true) o d ∧ Level true r.2⌝⦄ :=
  aside_spec h

/-- What is copied anywhere on a condition is level anywhere. -/
theorem verbatimIf_keeps {s : Scribe Bool}
    (h : ⦃fun d => ⌜d = ⟨o.rest, []⟩⌝⦄ s ⦃⇓? _ d => ⌜Since (Level true) ⟨o.rest, []⟩ d⌝⦄) :
    ⦃fun d => ⌜d = o⌝⦄ verbatimIf s ⦃⇓? _ d => ⌜Since (Level true) o d⌝⦄ :=
  verbatimIf_spec h

/-! ## Angle brackets -/

/-- An item of a list is written with its comma, which is plain. -/
theorem level_written {i : Listed} (h : Level true i.tokens) : Level true i.written := by
  have comma : Level true [.mark ","] := Level.of_isPlain (by decide)
  rw [Listed.written]
  split
  · simpa using h.append comma
  · simpa using h

/-- Level items are level when written in order. -/
theorem level_flatMap_written {items : List Listed} (h : ∀ i ∈ items, Level true i.tokens) :
    Level true (items.flatMap Listed.written) := by
  induction items with
  | nil => exact Level.nil true
  | cons i rest ih =>
    have first : Level true i.written := level_written (h i (by simp))
    have others := ih fun j hj => h j (by simp [hj])
    simpa using first.append others

/-- Putting lifetimes first keeps every item in one piece. -/
theorem level_arranged {items : List Listed} (h : ∀ i ∈ items, Level true i.tokens) :
    Level true (arranged items) := by
  have lifetimes : Level true ((items.filter (·.isLifetime)).flatMap Listed.written) :=
    level_flatMap_written fun i hi => h i (List.mem_of_mem_filter hi)
  have others : Level true ((items.filter fun i => !i.isLifetime).flatMap Listed.written) :=
    level_flatMap_written fun i hi => h i (List.mem_of_mem_filter hi)
  have comma : Level true [.mark ","] := Level.of_isPlain (by decide)
  simp only [arranged]
  split
  · simpa using lifetimes.append others
  · simpa using (lifetimes.append comma).append others

/-- The items of a list are level one by one, and so is what was read for them. -/
theorem listedItems_spec {item : Scribe (Bool × α)} (h : ∀ o, Keeps true o item) (n : Nat) :
    ⦃fun d => ⌜d = o⌝⦄ listedItems item n
    ⦃⇓? r d => ⌜Since (Level true) o d ∧ ∀ i ∈ r, Level true i.1.tokens⌝⦄ := by
  induction n generalizing o with
  | zero => mvcgen [listedItems]
  | succ n ih =>
    mvcgen [listedItems, aside_keeps, h, drop_keeps, ih]
    all_goals grind

/-- A list between angles leaves the open brackets as they are. -/
theorem angled_keeps {item : Scribe (Bool × α)} (h : ∀ o, Keeps true o item) :
    Keeps true o (angled item) := by
  mvcgen [angled, mark_opens, mark_closes, listedItems_spec, h, writeAll_spec]
  case vc2 start kept _ _ opened items _ read _ between written _ _ closed =>
    have level : Level true (arranged (items.map (·.1))) :=
      level_arranged (by simpa using read.2)
    have filled := written ▸ read.1.writeAll level
    exact kept.trans ((Since.opens_trans opened filled).closed closed)

end Scribe

end EntityMapping.Declaration
