import Mathlib
import EntityMapping.Declaration.Grammar
import EntityMapping.Proofs.Declaration.TypePhrases

/-!
# Expressions and brackets

The rules for patterns, expressions and blocks.  Their marks of less and greater are
comparisons, so that they leave the open brackets as they are only within a group, which is
where they stand in a type.  With them the whole grammar is covered.

Main results:

- `pattern_within`, `expression_within`, `block_keeps`: the rules of each kind.
- `grammarWithin_keeps`: the grammar leaves the brackets as its phrases do, at any depth.
- `level_of_readType?`, `level_of_readPath?`: types and paths are spelled with brackets that
  close each other.
-/

set_option mvcgen.warning false

namespace EntityMapping.Declaration

open Std.Do

namespace Scribe

/-- What begins the name of a member is plain. -/
@[grind →]
theorem seesPlain_of_seesMember {ts : Tokens} (h : seesMember ts = true) : seesPlain ts = true := by
  match ts, h with
  | .constant _ :: _, _ => rfl
  | .name _ :: _, _ => rfl

variable {g : Grammar} (hg : ∀ p o, Keeps p.standsAnywhere o (g p)) {o : Desk}

include hg

/-! ## Patterns -/

/-- Patterns to choose from match the brackets within their group. -/
theorem choice_within : Keeps false o (choice g) := by
  have phrase := @read_keeps g hg
  mvcgen [choice, repeatWhile_within, mark?_within, phrase]
  all_goals grind

/-- The bound of a range matches its brackets. -/
theorem rangeBound_within : Keeps false o (rangeBound g) := by
  have phrase := @read_keeps g hg
  have subject := @qualifiedPath_keeps g hg
  mvcgen [rangeBound, phrase, subject]
  all_goals grind

/-- What follows the first bound of a range matches its brackets. -/
theorem rangeRest_within : Keeps false o (rangeRest g) := by
  have bound := @rangeBound_within g hg
  mvcgen [rangeRest, mark?_within, drop_keeps, write_keeps, bound]
  all_goals grind [Token.isPlain, Token.isMark]

/-- The pattern of a field matches its brackets. -/
theorem fieldPattern_within : Keeps false o (fieldPattern g) := by
  have attributes := @attributes_keeps g hg
  have choice := @choice_within g hg
  mvcgen [fieldPattern, mark_within, attributes, choice]
  all_goals grind

/-- A pattern that begins with a path matches its brackets. -/
theorem pathPattern_within : Keeps false o (pathPattern g) := by
  have subject := @qualifiedPath_keeps g hg
  have field := @fieldPattern_within g hg
  have choice := @choice_within g hg
  have range := @rangeRest_within g hg
  mvcgen [pathPattern, mark_within, enclosed_keeps, commaList_within, subject, field, choice, range]
  all_goals grind

/-- A pattern that binds a name matches its brackets. -/
theorem binding_within : Keeps false o (binding g) := by
  have phrase := @read_keeps g hg
  mvcgen [binding, mark?_within, phrase]
  all_goals grind

/-- Every pattern matches its brackets. -/
theorem pattern_within : Keeps false o (pattern g) := by
  have phrase := @read_keeps g hg
  have bound := @rangeBound_within g hg
  have range := @rangeRest_within g hg
  have choice := @choice_within g hg
  have subject := @pathPattern_within g hg
  have bindings := @binding_within g hg
  have boxed : ∀ o,
      ⦃fun d => ⌜Since (Level false) o d ∧ seesWord "box" d.rest = true⌝⦄
      verbatim (do
        copy
        g.read .pattern)
      ⦃⇓? _ d => ⌜Since (Level false) o d⌝⦄ := by
    refine fun o => verbatim_spec (p := fun ts => seesWord "box" ts = true) fun ts sees => ?_
    mvcgen [phrase]
    all_goals grind
  mvcgen [pattern, mark_within, enclosed_keeps, commaList_within, phrase, bound, range, choice,
    subject, bindings, boxed]
  all_goals grind

/-! ## Parts of expressions -/

/-- An expression that ends its group matches its brackets. -/
theorem whole_within : Keeps false o (whole g) := by
  have phrase := @read_keeps g hg
  mvcgen [whole, phrase]
  all_goals grind

/-- The condition of a branch or a loop matches its brackets. -/
theorem condition_within : Keeps false o (condition g) := by
  have phrase := @read_keeps g hg
  mvcgen [condition, phrase]
  all_goals grind

/-- What may follow an operand matches its brackets. -/
theorem afterOperand_within {records : Bool} : Keeps false o (afterOperand g records) := by
  have phrase := @read_keeps g hg
  mvcgen [afterOperand, mark_within, mark?_within, repeatWhile_within, phrase]
  all_goals grind

/-- An argument of a closure matches its brackets. -/
theorem closureArgument_within : Keeps false o (closureArgument g) := by
  have phrase := @read_keeps g hg
  have attributes := @attributes_keeps g hg
  mvcgen [closureArgument, mark_within, attributes, phrase]
  all_goals grind

/-- A closure matches its brackets. -/
theorem closure_within {records : Bool} : Keeps false o (closure g records) := by
  have phrase := @read_keeps g hg
  have lifetimes := @boundLifetimes?_keeps g hg
  have argument := @closureArgument_within g hg
  mvcgen [closure, mark_within, mark?_within, commaList_within, lifetimes, argument, phrase]
  all_goals grind

/-! ## Expressions with blocks -/

/-- A conditional with all its branches matches its brackets. -/
theorem conditional_within : Keeps false o (conditional g) := by
  have phrase := @read_keeps g hg
  have test := @condition_within g hg
  mvcgen [conditional, repeatWhile_within, test, phrase]
  all_goals grind

/-- An arm of a case distinction matches its brackets. -/
theorem arm_within : Keeps false o (arm g) := by
  have attributes := @attributes_keeps g hg
  have choice := @choice_within g hg
  have guard := @whole_within g hg
  mvcgen [arm, mark_within, mark?_within, attributes, choice, guard, hg]
  all_goals grind

/-- A case distinction matches its brackets. -/
theorem matching_within : Keeps false o (matching g) := by
  have subject := @condition_within g hg
  have attributes := @innerAttributes_keeps g hg
  have arm := @arm_within g hg
  mvcgen [matching, enclosed_keeps, repeatWhile_within, subject, attributes, arm]
  all_goals grind

/-- A loop matches its brackets. -/
theorem loop_within : Keeps false o (loop g) := by
  have phrase := @read_keeps g hg
  have test := @condition_within g hg
  have choice := @choice_within g hg
  mvcgen [loop, test, choice, phrase]
  all_goals grind

/-- An expression that ends in a block matches its brackets. -/
theorem blockLike_within : Keeps false o (blockLike g) := by
  have phrase := @read_keeps g hg
  have conditional := @conditional_within g hg
  have matching := @matching_within g hg
  have loop := @loop_within g hg
  mvcgen [blockLike, mark_within, conditional, matching, loop, phrase]
  all_goals grind

/-! ## Operands -/

/-- The field of a record matches its brackets. -/
theorem recordField_within : Keeps false o (recordField g) := by
  have value := @whole_within g hg
  have attributes := @attributes_keeps g hg
  mvcgen [recordField, mark_within, mark?_within, attributes, value]
  all_goals grind

/-- An expression that begins with a path matches its brackets. -/
theorem pathExpression_within {records : Bool} : Keeps false o (pathExpression g records) := by
  have subject := @qualifiedPath_keeps g hg
  have field := @recordField_within g hg
  mvcgen [pathExpression, mark_within, enclosed_keeps, commaList_within, subject, field]
  all_goals grind

/-- A jump with its label and its value matches its brackets. -/
theorem jump_within {records : Bool} :
    ⦃fun d => ⌜Since (Level false) o d ∧ seesPlain d.rest = true⌝⦄ jump g records
    ⦃⇓? _ d => ⌜Since (Level false) o d⌝⦄ := by
  have phrase := @read_keeps g hg
  have value := @whole_within g hg
  mvcgen [jump, value, phrase]
  all_goals grind

/-- An array matches its brackets. -/
theorem array_within : Keeps false o (array g) := by
  have value := @whole_within g hg
  mvcgen [array, enclosed_keeps, mark?_within, commaList_within, value]
  all_goals grind

/-- An expression without operators matches its brackets. -/
theorem atom_within {records : Bool} : Keeps false o (atom g records) := by
  have phrase := @read_keeps g hg
  have value := @whole_within g hg
  have closure := @closure_within g hg
  have blocks := @blockLike_within g hg
  have subject := @pathExpression_within g hg
  have jump := @jump_within g hg
  have array := @array_within g hg
  have choice := @choice_within g hg
  have become : ∀ o,
      ⦃fun d => ⌜Since (Level false) o d ∧ seesWord "become" d.rest = true⌝⦄
      verbatim (do
        copy
        whole g)
      ⦃⇓? _ d => ⌜Since (Level false) o d⌝⦄ := by
    refine fun o => verbatim_spec (p := fun ts => seesWord "become" ts = true) fun ts sees => ?_
    mvcgen [value]
    all_goals grind
  mvcgen [atom, mark_within, mark?_within, enclosed_keeps, commaList_within, builtinCall_spec,
    phrase, value, closure, blocks, subject, jump, array, choice, become]
  all_goals grind

/-- Signs in front of an expression match their brackets. -/
theorem signs_within : Keeps false o (signs g) := by
  have attributes := @attributes_keeps g hg
  refine repeatWhile_within fun o => ?_
  mvcgen [mark_within, mark?_within, attributes]
  all_goals grind

omit hg in
/-- The places of a tuple, written as tokens, leave the open brackets as they are. -/
theorem writePlaces_keeps {texts : List String} : Keeps true o (writePlaces texts) := by
  induction texts generalizing o with
  | nil => mvcgen [writePlaces]
  | cons p rest ih =>
    mvcgen [writePlaces, write_keeps, ih]
    all_goals grind [Token.isPlain, Token.isMark]

/-- A member with the arguments of its call matches its brackets. -/
theorem member_within : Keeps false o (member g) := by
  have phrase := @read_keeps g hg
  mvcgen [member, next_keeps, mark_within, writePlaces_keeps, phrase]
  all_goals grind

/-- Whatever trails an operand matches its brackets. -/
theorem trailers_within : Keeps false o (trailers g) := by
  have value := @whole_within g hg
  have member := @member_within g hg
  refine repeatWhile_within fun o => ?_
  mvcgen [mark_within, mark?_within, enclosed_keeps, commaList_within, value, member]
  all_goals grind

/-! ## Expressions -/

/-- An expression that may stand alone matches its brackets. -/
theorem standalone_within : Keeps false o (standalone g) := by
  have value := @whole_within g hg
  have attributes := @attributes_keeps g hg
  have blocks := @blockLike_within g hg
  have trailers := @trailers_within g hg
  have after := @afterOperand_within g hg
  mvcgen [standalone, value, attributes, blocks, trailers, after]
  all_goals grind

/-- Every expression matches its brackets. -/
theorem expression_within {records : Bool} : Keeps false o (expression g records) := by
  have signs := @signs_within g hg
  have atom := @atom_within g hg
  have trailers := @trailers_within g hg
  have after := @afterOperand_within g hg
  refine repeatWhile_within fun o => ?_
  mvcgen [signs, atom, trailers, after]
  all_goals grind

/-! ## Blocks -/

/-- A declaration of a variable matches its brackets. -/
theorem letStatement_within : Keeps false o (letStatement g) := by
  have phrase := @read_keeps g hg
  have value := @whole_within g hg
  mvcgen [letStatement, mark_within, mark?_within, phrase, value]
  all_goals grind

omit hg in
/-- A macro with a block matches its brackets. -/
theorem blockMacro_within : Keeps false o blockMacro := by
  mvcgen [blockMacro, mark_within]
  all_goals grind

/-- A statement matches its brackets. -/
theorem statement_within : Keeps false o (statement g) := by
  have attributes := @attributes_keeps g hg
  have declaration := @letStatement_within g hg
  mvcgen [statement, mark?_within, blockMacro_within, attributes, declaration, hg]
  all_goals grind

/-- A block leaves the open brackets as they are, wherever it stands. -/
theorem block_keeps : Keeps true o (block g) := by
  have attributes := @innerAttributes_keeps g hg
  have statement := @statement_within g hg
  mvcgen [block, enclosed_keeps, repeatWhile_within, mark?_within, attributes, statement]
  all_goals grind

omit hg in
/-- The law of the grammar, by induction on how deep phrases contain each other: each phrase
has the law of its rule. -/
theorem grammarWithin_keeps (n : Nat) :
    ∀ p o, Keeps p.standsAnywhere o (grammarWithin n p) := by
  induction n with
  | zero =>
    intro p o
    mvcgen [grammarWithin]
  | succ n ih =>
    intro p o
    cases p with
    | type sums =>
      have rule := @type_keeps _ ih
      mvcgen [grammarWithin, Scribe.phrase, rule] <;> grind
    | arguments => exact arguments_keeps ih
    | expression records =>
      have rule := @expression_within _ ih
      mvcgen [grammarWithin, Scribe.phrase, rule] <;> grind
    | standalone => exact standalone_within ih
    | pattern =>
      have rule := @pattern_within _ ih
      mvcgen [grammarWithin, Scribe.phrase, rule] <;> grind
    | block =>
      have rule := @block_keeps _ ih
      mvcgen [grammarWithin, Scribe.phrase, rule] <;> grind

omit hg in
/-- What is read from the front to the end is written with the brackets that were read. -/
theorem level_of_complete? {α : Type} {s : Scribe α} {a : α} {ts written : Tokens}
    (h : ∀ o, Keeps true o s) (read : complete? s ts = some (a, written)) :
    Level true written := by
  unfold complete? at read
  split at read
  next run =>
    obtain ⟨rfl, rfl⟩ : _ ∧ _ := by simpa using read
    exact (Keeps.since_run h run).setAside
  next => cases read

end Scribe

/-- A type is spelled with brackets that match. -/
theorem level_of_readType? {ts written : Tokens} {shape : TypeShape}
    (h : readType? ts = some (shape, written)) : Level true written :=
  Scribe.level_of_complete? (fun _ => Scribe.type_keeps (Scribe.grammarWithin_keeps _)) h

/-- A path is spelled with brackets that match. -/
theorem level_of_readPath? {inType : Bool} {ts written : Tokens}
    (h : readPath? inType ts = some written) : Level true written := by
  obtain ⟨⟨r, _⟩, hread, rfl⟩ := Option.map_eq_some_iff.mp h
  exact Scribe.level_of_complete? (fun _ => Scribe.path_keeps (Scribe.grammarWithin_keeps _)) hread

end EntityMapping.Declaration
