import Mathlib
import EntityMapping.Declaration.Grammar
import EntityMapping.Proofs.Declaration.Scribes

/-!
# Types and brackets

The rules for paths, bounds and types leave the open brackets as they are, if the grammar of
the phrases inside them does.  Each rule has one law.  Its proof names the laws of the rules
that it calls, walks through the rule, and puts together what was read and written on the way.

Main results:

- `Phrase.standsAnywhere`: the phrases that leave the brackets as they are outside of groups.
- `attributes_keeps`, `path_keeps`, `bounds_keeps`: the parts of types.
- `type_keeps`, `arguments_keeps`: types, and arguments between angle brackets.
-/

set_option mvcgen.warning false

namespace EntityMapping.Declaration

open Std.Do

/-- Whether a phrase may stand outside of groups. -/
@[grind =]
def Phrase.standsAnywhere : Phrase → Bool
  | type _ => true
  | arguments => true
  | block => true
  | expression _ => false
  | standalone => false
  | pattern => false

/-! ## Plain tokens -/

@[simp, grind =]
theorem seesPlain_name (w : String) (ts : Tokens) : seesPlain (.name w :: ts) = true := rfl

@[simp, grind =]
theorem seesPlain_constant (s : String) (ts : Tokens) : seesPlain (.constant s :: ts) = true := rfl

@[simp, grind =]
theorem seesPlain_text (s : String) (ts : Tokens) : seesPlain (.text s :: ts) = true := rfl

/-- A name is plain. -/
@[grind →]
theorem seesPlain_of_seesName {ts : Tokens} (h : seesName ts = true) : seesPlain ts = true := by
  match ts, h with
  | .name w :: _, _ => rfl

/-- A name or a keyword is plain. -/
@[grind →]
theorem seesPlain_of_seesAnyName {ts : Tokens} (h : seesAnyName ts = true) :
    seesPlain ts = true := by
  match ts, h with
  | .name w :: _, _ => rfl

/-- One of several words is plain. -/
@[grind →]
theorem seesPlain_of_seesOneOf {words : List String} {ts : Tokens}
    (h : seesOneOf words ts = true) : seesPlain ts = true := by
  obtain ⟨w, _, hw⟩ := List.any_eq_true.mp h
  exact seesPlain_of_seesWord hw

/-- The mark of an attribute is plain. -/
theorem seesPlain_of_seesHash {ts : Tokens} (h : seesMark "#" ts = true) :
    seesPlain ts = true := by
  obtain ⟨t, rest, rfl, ht⟩ := exists_of_beginsWith_singleton h
  simpa [seesPlain] using Token.isPlain_of_isMark ht (by decide)

/-- A constant behind its sign. -/
theorem Level.signed {t : Token} (h : t.isMark '-' = true) (s : String) :
    Level true [t, .constant s] := by
  intro groups angles _
  obtain rfl | inGroup := Nat.eq_zero_or_pos groups
  · cases t <;> simp_all [Token.isMark, Nesting.step, Nesting.angle]
  · have inGroup : groups ≠ 0 := by omega
    cases t <;> simp_all [Token.isMark, Nesting.step]

/-- A negative number is written as one constant, which leaves the open brackets as they are. -/
theorem Since.signed {t : Token} {s s' : String} {ts : Tokens} {d : Desk}
    (h : d.rest = t :: .constant s :: ts) (sign : t.isMark '-' = true) :
    Since (Level true) d ⟨ts, .constant s' :: d.written⟩ :=
  ⟨[t, .constant s], [.constant s'], by simp [h], by simp, Level.signed sign s,
    Level.of_isPlain rfl⟩

namespace Scribe

/-- A lifetime that stands alone is plain. -/
@[grind →]
theorem seesPlain_of_seesLoneLifetime {ts : Tokens} (h : seesLoneLifetime ts = true) :
    seesPlain ts = true := by
  match ts, h with
  | .lifetime _ :: _, _ => rfl

/-- The name of an argument is plain. -/
@[grind →]
theorem seesPlain_of_seesArgumentName {ts : Tokens} (h : seesArgumentName ts = true) :
    seesPlain ts = true := by
  grind [seesArgumentName]

variable {o : Desk}

/-! ## Names and constants -/

/-- A name leaves the open brackets as they are. -/
@[spec]
theorem name_keeps : Keeps true o name := by
  mvcgen [name]
  grind

/-- A name or a keyword leaves the open brackets as they are. -/
@[spec]
theorem anyName_keeps : Keeps true o anyName := by
  mvcgen [anyName]
  grind

/-- A constant leaves the open brackets as they are. -/
@[spec]
theorem literal_keeps : Keeps true o literal := by
  mvcgen [literal, write_spec]
  all_goals grind [Since.signed]

/-- A path without arguments leaves the open brackets as they are. -/
@[spec]
theorem plainPath_keeps : Keeps true o plainPath := by
  mvcgen [plainPath, mark?_keeps, repeatWhile_keeps]
  all_goals grind

section

variable {g : Grammar} (hg : ∀ p o, Keeps p.standsAnywhere o (g p)) {o : Desk}

include hg

/-- A phrase leaves the brackets as the grammar says. -/
theorem read_keeps (p : Phrase) : Keeps p.standsAnywhere o (g.read p) := by
  mvcgen [Grammar.read, hg] <;> grind

/-! ## Attributes -/

/-- A constant by itself is tried in a run of its own before an expression is read. -/
theorem attributeValue_keeps : Keeps false o (attributeValue g) := by
  have constant : ∀ o, Keeps true o (literal >>= fun _ => expect seesEnd) := by
    intro o
    mvcgen
    all_goals grind
  have phrase := @read_keeps g hg
  mvcgen [attributeValue, phrase]
  case vc1 before kept after run =>
    have := Keeps.since_run constant run
    grind
  all_goals grind

/-- What stands in an attribute matches its brackets. -/
theorem attributeContent_keeps : Keeps false o (attributeContent g) := by
  have value := @attributeValue_keeps g hg
  mvcgen [attributeContent, value, mark?_within]
  all_goals grind

/-- Attributes in front of something are closed. -/
theorem attributes_keeps : Keeps true o (attributes g) := by
  have content := @attributeContent_keeps g hg
  refine repeatWhile_keeps fun o => ?_
  mvcgen [enclosed_keeps, content, mark_keeps]
  all_goals grind

/-- Attributes inside something are closed. -/
theorem innerAttributes_keeps : Keeps true o (innerAttributes g) := by
  have content := @attributeContent_keeps g hg
  refine repeatWhile_keeps fun o => ?_
  mvcgen [enclosed_keeps, content, mark_keeps]
  all_goals grind

/-! ## Paths -/

/-- One name of a path, with its arguments, leaves the open brackets as they are. -/
theorem pathName_keeps {inType : Bool} : Keeps true o (pathName g inType) := by
  mvcgen [pathName, mark?_keeps, hg]
  all_goals grind

/-- The further names of a path leave the open brackets as they are. -/
theorem pathNames_keeps {inType : Bool} {n : Nat} {isSingle plainBefore : Bool} :
    Keeps true o (pathNames g inType n isSingle plainBefore) := by
  have first := @pathName_keeps g hg
  induction n generalizing o isSingle plainBefore with
  | zero => mvcgen [pathNames]
  | succ n ih =>
    mvcgen [pathNames, first, mark_keeps, ih]
    all_goals grind

/-- A path leaves the open brackets as they are. -/
theorem path_keeps {inType : Bool} : Keeps true o (path g inType) := by
  have names := @pathNames_keeps g hg
  mvcgen [path, mark?_keeps, names]
  all_goals grind

/-- The type and the trait in front of a path stand between angle brackets. -/
theorem qualifiedPath_keeps {inType : Bool} : Keeps true o (qualifiedPath g inType) := by
  have phrase := @read_keeps g hg
  have names := @pathNames_keeps g hg
  have plain := @path_keeps g hg
  have pathSign : ∀ o, Keeps true o (mark "::") := fun o => mark_keeps (by decide)
  mvcgen [qualifiedPath, pathSign, mark_opens, mark_closes, phrase, plain, names]
  all_goals grind

/-! ## Functions -/

/-- The output of a function, with its arrow, leaves the open brackets as they are. -/
theorem output_keeps : Keeps true o (output g) := by
  have phrase := @read_keeps g hg
  mvcgen [output, mark?_keeps, phrase]
  all_goals grind

/-- The inputs of a function are closed. -/
theorem callArguments_keeps : Keeps true o (callArguments g) := by
  have phrase := @read_keeps g hg
  have result := @output_keeps g hg
  mvcgen [callArguments, enclosed_keeps, commaList_keeps, phrase, result]
  all_goals grind

/-- A bound in the form of a function leaves the open brackets as they are. -/
theorem callable_keeps {r : PathReading} : Keeps true o (callable g r) := by
  have arguments := @callArguments_keeps g hg
  mvcgen [callable, arguments, drop_keeps]
  all_goals grind

/-! ## Bounds -/

/-- The lifetimes for which a bound holds are closed. -/
theorem boundLifetimes_keeps : Keeps true o (boundLifetimes g) := by
  have attributes := @attributes_keeps g hg
  mvcgen [boundLifetimes, mark_opens, mark_closes, commaList_keeps, attributes]
  all_goals grind

/-- Lifetimes that may be missing are closed if they are there. -/
theorem boundLifetimes?_keeps : Keeps true o (boundLifetimes? g) := by
  have lifetimes := @boundLifetimes_keeps g hg
  mvcgen [boundLifetimes?, lifetimes]

omit hg in
/-- What says that a bound is constant leaves the open brackets as they are. -/
@[spec]
theorem constness_keeps : Keeps true o constness := by
  mvcgen [constness, enclosed_keeps, mark?_keeps]
  all_goals grind

/-- A bound by a trait leaves the open brackets as they are. -/
theorem traitBound_keeps : Keeps true o (traitBound g) := by
  have lifetimes := @boundLifetimes?_keeps g hg
  have subject := @path_keeps g hg
  have arguments := @callable_keeps g hg
  mvcgen [traitBound, aside_keeps, lifetimes, constness_keeps, mark?_keeps, writeAll_keeps, subject,
    arguments]
  all_goals grind

omit hg in
/-- A list of captured parameters is closed. -/
theorem captures_keeps : Keeps true o captures := by
  have item : ∀ o, Keeps true o (do
      let isLifetime ← sees seesLifetime
      if isLifetime then copy
      else if ← sees (seesWord "Self") then copy
      else name
      return (isLifetime, ())) := by
    intro o
    mvcgen
    all_goals grind
  mvcgen [captures, angled_keeps, item]
  all_goals grind

/-- Every bound leaves the open brackets as they are. -/
theorem bound_keeps {rules : BoundRules} : Keeps true o (bound g rules) := by
  have subject := @traitBound_keeps g hg
  mvcgen [bound, captures_keeps, verbatimIf_keeps, enclosed_keeps, subject]
  all_goals grind

/-- So many bounds with their signs leave the open brackets as they are. -/
theorem boundsWithin_keeps {rules : BoundRules} {sums : Bool} {n : Nat} :
    Keeps true o (boundsWithin g rules sums n) := by
  have first := @bound_keeps g hg
  induction n generalizing o with
  | zero => mvcgen [boundsWithin]
  | succ n ih =>
    mvcgen [boundsWithin, first, mark?_keeps, ih]
    all_goals grind

/-- Bounds leave the open brackets as they are. -/
theorem bounds_keeps {rules : BoundRules} {sums : Bool} : Keeps true o (bounds g rules sums) := by
  have within := @boundsWithin_keeps g hg
  mvcgen [bounds, within]

/-! ## Types -/

/-- Bounds of which one is a trait leave the open brackets as they are. -/
theorem traitBounds_keeps {rules : BoundRules} {sums : Bool} :
    Keeps true o (traitBounds g rules sums) := by
  have sum := @bounds_keeps g hg
  mvcgen [traitBounds, sum]
  all_goals grind

/-- Bounds behind a first one leave the open brackets as they are. -/
theorem furtherBounds_keeps : Keeps true o (furtherBounds g) := by
  have sum := @bounds_keeps g hg
  mvcgen [furtherBounds, mark?_keeps, sum]
  all_goals grind

/-- A type that begins with a path leaves the open brackets as they are. -/
theorem pathType_keeps {sums : Bool} {r : PathReading} : Keeps true o (pathType g sums r) := by
  have further := @furtherBounds_keeps g hg
  mvcgen [pathType, mark_keeps, further]
  all_goals grind

/-- What stands in round brackets, a tuple or one type, leaves the open brackets as they are. -/
theorem roundContent_keeps : Keeps true o (roundContent g) := by
  have phrase := @read_keeps g hg
  have subject := @traitBound_keeps g hg
  mvcgen [roundContent, mark?_keeps, commaList_keeps, phrase, subject, hg]
  all_goals grind

/-- A type in round brackets leaves the open brackets as they are. -/
theorem roundType_keeps {sums : Bool} : Keeps true o (roundType g sums) := by
  have content := @roundContent_keeps g hg
  have further := @furtherBounds_keeps g hg
  mvcgen [roundType, enclosed_keeps, content, further]
  all_goals grind

/-- A slice or an array leaves the open brackets as they are. -/
theorem squareType_keeps : Keeps true o (squareType g) := by
  have phrase := @read_keeps g hg
  mvcgen [squareType, enclosed_keeps, mark?_within, phrase]
  all_goals grind

/-- An argument in the type of a function leaves the open brackets as they are. -/
theorem functionArgument_keeps : Keeps true o (functionArgument g) := by
  have phrase := @read_keeps g hg
  have attributes := @attributes_keeps g hg
  mvcgen [functionArgument, mark_keeps, mark?_keeps, attributes, phrase]
  all_goals grind

/-- The type of a function leaves the open brackets as they are. -/
theorem functionType_keeps : Keeps true o (functionType g) := by
  have argument := @functionArgument_keeps g hg
  have result := @output_keeps g hg
  mvcgen [functionType, enclosed_keeps, commaList_keeps, argument, result]
  all_goals grind

omit hg in
/-- A call that the compiler knows leaves the open brackets as they are. -/
theorem builtinCall_spec :
    ⦃fun d => ⌜Since (Level true) o d ∧ seesBuiltin d.rest = true⌝⦄ builtinCall
    ⦃⇓? _ d => ⌜Since (Level true) o d⌝⦄ := by
  refine verbatim_spec (p := fun ts => seesBuiltin ts = true) fun ts sees => ?_
  mvcgen
  all_goals grind [seesBuiltin, seesPlain_of_seesHash]

/-- The rule of types, by the rules of their kinds. -/
theorem type_keeps {sums : Bool} : Keeps true o (type g sums) := by
  have phrase := @read_keeps g hg
  have lifetimes := @boundLifetimes_keeps g hg
  have function := @functionType_keeps g hg
  have subject := @path_keeps g hg
  have qualified := @qualifiedPath_keeps g hg
  have arguments := @callable_keeps g hg
  have further := @furtherBounds_keeps g hg
  have sum := @traitBounds_keeps g hg
  have inRound := @roundType_keeps g hg
  have inSquare := @squareType_keeps g hg
  have named := @pathType_keeps g hg
  mvcgen [type, mark_keeps, mark?_keeps, verbatimIf_keeps, builtinCall_spec, phrase, lifetimes,
    function, subject, qualified, arguments, further, sum, inRound, inSquare, named, hg]
  all_goals grind

/-! ## Arguments -/

/-- A constant among the arguments of a path leaves the open brackets as they are. -/
theorem constant_keeps : Keeps true o (constant g) := by
  have phrase := @read_keeps g hg
  mvcgen [constant, phrase]
  all_goals grind

/-- An argument that begins with a path leaves the open brackets as they are. -/
theorem pathArgument_keeps : Keeps true o (pathArgument g) := by
  have phrase := @read_keeps g hg
  have value := @constant_keeps g hg
  have subject := @path_keeps g hg
  have arguments := @callable_keeps g hg
  have sum := @bounds_keeps g hg
  have named := @pathType_keeps g hg
  mvcgen [pathArgument, mark_keeps, mark?_keeps, phrase, value, subject, arguments, sum, named]
  all_goals grind

/-- Every argument of a path leaves the open brackets as they are. -/
theorem argument_keeps : Keeps true o (argument g) := by
  have value := @constant_keeps g hg
  have named := @pathArgument_keeps g hg
  mvcgen [argument, value, named, hg]
  all_goals grind

/-- The arguments of a path, between their angles, leave the open brackets as they are. -/
theorem arguments_keeps : Keeps true o (arguments g) := by
  have item := @argument_keeps g hg
  mvcgen [arguments, angled_keeps, item]
  all_goals grind

end

end Scribe

end EntityMapping.Declaration
