import EntityMapping.Declaration.Vocabulary
import EntityMapping.Proofs.Fallible
import EntityMapping.Proofs.Text.Blanks
import Mathlib.Logic.Function.Basic
import Mathlib.Tactic.SplitIfs

/-!
# Words of declarations and of metadata

Comparisons, letter case rules, column types and strategies are named by words in two places: in
the attributes of a declaration and in metadata that is read by itself.  For comparisons and letter
case rules both places know the same words.  Declarations are more patient with column types and
strategies: they overlook blanks at the ends of a word and, in a column type, dashes for
underscores, while metadata refuses such a word.

Main results:

- `takenAlike_iff_of_restricted`: two readings of which one knows fewer texts.
- `comparison?_eq_some_iff`, `caseRule?_eq_some_iff`, `columnType?_eq_some_iff`,
  `strategy?_eq_some_iff`: the words that declarations know.
- `conditionWords_agree`: both places know the same words of conditions.
- `columnType_ofText_iff`, `strategy_ofText_iff`: the words of columns and keys that metadata knows.
- `columnWords_agree_iff`: on which of those words the two places agree.
-/

namespace EntityMapping

open Text

/-! ## Names -/

section Names

variable {α : Type} {nameOf : α → String}

/-- A value is found by its name, if it is the first one of that name. -/
theorem find?_name_eq_some_iff {values : List α}
    (h : ∀ a, values.find? (nameOf · == nameOf a) = some a) {word : String} {a : α} :
    values.find? (nameOf · == word) = some a ↔ word = nameOf a := by
  constructor
  · intro hfound
    have hname : (nameOf a == word) = true := by simpa using List.find?_some hfound
    exact (eq_of_beq hname).symm
  · rintro rfl
    exact h a

/-- Values that are found by their names have different names. -/
theorem injective_of_find?_name (values : List α)
    (h : ∀ a, values.find? (nameOf · == nameOf a) = some a) : Function.Injective nameOf :=
  fun a b hab => Option.some.inj ((h a).symm.trans (hab ▸ h b))

/-- No word is in an empty vocabulary. -/
theorem Declaration.lookup_nil (word : String) : lookup ([] : List (String × α)) word = none := rfl

/-- The first entry of a vocabulary is tried before the others. -/
theorem Declaration.lookup_cons (key word : String) (a : α) (rest : List (String × α)) :
    lookup ((key, a) :: rest) word = if word = key then some a else lookup rest word := by
  rw [lookup, List.find?_cons, lookup]
  by_cases h : word = key
  · simp [h]
  · rw [if_neg h, beq_false_of_ne (Ne.symm h)]

/-- A table of values under their names is searched like the values themselves. -/
theorem Declaration.lookup_map_name (nameOf : α → String) (values : List α) (word : String) :
    lookup (values.map fun a => (nameOf a, a)) word = values.find? (nameOf · == word) := by
  rw [lookup, List.find?_map, Option.map_map]
  exact Option.map_id_apply

end Names

/-- A word as the names of column types and comparisons are written. -/
def Text.capitalWord (text : String) : String := underscored [' ', '-'] (upper (trim text))

/-- A word as the names of letter case rules are written. -/
def Text.smallWord (text : String) : String := underscored ['-', ' '] (lower (trim text))

/-- The short names of a comparison: six comparisons have one. -/
def Comparison.shortNames : Comparison → List String
  | simpleProperty => ["EQ"]
  | negatingSimpleProperty => ["NE"]
  | lessThan => ["LT"]
  | lessThanEqual => ["LTE"]
  | greaterThan => ["GT"]
  | greaterThanEqual => ["GTE"]
  | _ => []

/-- The words for a comparison. -/
def Comparison.words (c : Comparison) : List String := c.name :: c.shortNames

/-- The word for a letter case rule. -/
def CaseRule.word : CaseRule → String
  | never => "never"
  | always => "always"
  | whenPossible => "when_possible"

namespace Declaration

/-! ## Two readings of a text -/

/-- Metadata and declarations take a text alike: both refuse it, or a declaration selects the
variant of what the text means in metadata. -/
structure TakenAlike {α : Type} (ofText : String → Except MappingError α)
    (meaning? : String → Option α) (variant : α → String) (text : String) : Prop where
  taken : (∃ a, ofText text = .ok a) ↔ (meaning? text).isSome
  selected : ∀ a, ofText text = .ok a → (meaning? text).map variant = some (variant a)

section Readings

variable {α : Type} {ofText : String → Except MappingError α} {meaning? : String → Option α}
  {variant : α → String} {text : String}

/-- Where variants differ, texts that are taken alike have the same meaning. -/
theorem takenAlike_iff (hvariant : Function.Injective variant) :
    TakenAlike ofText meaning? variant text ↔
      ∀ a, ofText text = .ok a ↔ meaning? text = some a := by
  constructor
  · rintro ⟨htaken, hselected⟩ a
    have hsame (b : α) (hb : ofText text = .ok b) : meaning? text = some b :=
      Option.map_injective hvariant (hselected b hb)
    refine ⟨hsame a, fun ha => ?_⟩
    obtain ⟨b, hb⟩ := htaken.mpr (by simp [ha])
    rwa [Option.some.inj (ha.symm.trans (hsame b hb))]
  · intro h
    refine ⟨?_, fun a ha => by rw [(h a).mp ha, Option.map_some]⟩
    rw [Option.isSome_iff_exists]
    exact exists_congr h

/-- If metadata knows the meaning of a text in declarations only under a condition, the two agree
where the condition holds and where declarations refuse the text, too. -/
theorem takenAlike_iff_of_restricted (hvariant : Function.Injective variant) {P : Prop}
    (h : ∀ a, ofText text = .ok a ↔ meaning? text = some a ∧ P) :
    TakenAlike ofText meaning? variant text ↔ meaning? text = none ∨ P := by
  rw [takenAlike_iff hvariant]
  constructor
  · intro hsame
    refine or_iff_not_imp_left.mpr fun hmeaning => ?_
    obtain ⟨a, ha⟩ := Option.ne_none_iff_exists'.mp hmeaning
    exact ((h a).mp ((hsame a).mpr ha)).2
  · rintro (hmeaning | hP) a
    · simp [h, hmeaning]
    · rw [h, and_iff_left hP]

end Readings

/-! ## Words of conditions -/

/-- Comparisons have different variants. -/
theorem comparisonVariant_injective : Function.Injective comparisonVariant :=
  injective_of_find?_name Comparison.all fun c => by cases c <;> decide

/-- Rules of the letter case have different variants. -/
theorem caseRuleVariant_injective : Function.Injective caseRuleVariant :=
  injective_of_find?_name [.never, .always, .whenPossible] fun r => by cases r <;> decide

/-- The other names of comparisons are their short names. -/
theorem lookup_comparisonAliases (word : String) :
    lookup comparisonAliases word = Comparison.ofShortName? word := by
  simp only [comparisonAliases, lookup_cons]
  rfl

/-- A comparison is looked for by its short names first, and then by its name. -/
theorem comparison?_eq (text : String) :
    comparison? text = (Comparison.ofShortName? (capitalWord text)).or
      (Comparison.all.find? (·.name == capitalWord text)) := by
  rw [← lookup_comparisonAliases, ← lookup_map_name]
  rfl

/-- A short name means the comparison that has it. -/
theorem ofShortName?_eq_some_iff {word : String} {c : Comparison} :
    Comparison.ofShortName? word = some c ↔ word ∈ c.shortNames := by
  constructor
  · intro h
    unfold Comparison.ofShortName? at h
    split_ifs at h <;> cases h <;> simp_all [Comparison.shortNames]
  · intro h
    cases c <;> simp only [Comparison.shortNames, List.mem_singleton, List.not_mem_nil] at h <;>
      exact h ▸ rfl

/-- Declarations know a comparison by its words. -/
theorem comparison?_eq_some_iff {text : String} {c : Comparison} :
    comparison? text = some c ↔ capitalWord text ∈ c.words := by
  have hshort : Comparison.ofShortName? c.name = none := by cases c <;> decide
  have hname : Comparison.all.find? (·.name == capitalWord text) = some c ↔
      capitalWord text = c.name := find?_name_eq_some_iff Comparison.find?_name
  rw [comparison?_eq, Option.or_eq_some_iff, ofShortName?_eq_some_iff, hname, Comparison.words,
    List.mem_cons]
  constructor
  · rintro (h | ⟨-, h⟩)
    · exact .inr h
    · exact .inl h
  · rintro (h | h)
    · exact .inr ⟨h ▸ hshort, h⟩
    · exact .inl h

/-- Metadata knows the same comparisons as declarations. -/
theorem comparison_ofText_iff {text : String} {c : Comparison} :
    Comparison.ofText text = .ok c ↔ comparison? text = some c := by
  rw [comparison?_eq, capitalWord]
  unfold Comparison.ofText
  dsimp only
  split
  next h => simp [h]
  next h => simp [h]

/-- Declarations know a letter case rule by its word. -/
theorem caseRule?_eq_some_iff {text : String} {r : CaseRule} :
    caseRule? text = some r ↔ smallWord text = r.word := by
  have hfound (r : CaseRule) :
      [.never, .always, .whenPossible].find? (CaseRule.word · == r.word) = some r := by
    cases r <;> decide
  rw [← find?_name_eq_some_iff hfound, ← lookup_map_name]
  rfl

/-- Metadata knows the same letter case rules as declarations. -/
theorem caseRule_ofText_iff {text : String} {r : CaseRule} :
    CaseRule.ofText text = .ok r ↔ caseRule? text = some r := by
  simp only [CaseRule.ofText, caseRule?, lookup_cons, lookup_nil]
  generalize underscored ['-', ' '] (lower (trim text)) = word
  split_ifs <;> simp

/-- Comparisons and letter case rules have the same words in metadata as in declarations. -/
theorem conditionWords_agree (text : String) :
    TakenAlike Comparison.ofText comparison? comparisonVariant text ∧
      TakenAlike CaseRule.ofText caseRule? caseRuleVariant text ∧
      (∀ c, comparison? text = some c ↔ capitalWord text ∈ c.words) ∧
      ∀ r, caseRule? text = some r ↔ smallWord text = r.word :=
  ⟨(takenAlike_iff comparisonVariant_injective).mpr fun _ => comparison_ofText_iff,
    (takenAlike_iff caseRuleVariant_injective).mpr fun _ => caseRule_ofText_iff,
    fun _ => comparison?_eq_some_iff, fun _ => caseRule?_eq_some_iff⟩

/-! ## Words of columns and keys -/

/-- Column types have different variants. -/
theorem columnTypeVariant_injective : Function.Injective columnTypeVariant :=
  injective_of_find?_name JdbcType.all fun t => by cases t <;> decide

/-- Strategies have different variants. -/
theorem strategyVariant_injective : Function.Injective strategyVariant :=
  injective_of_find?_name [.auto, .identity, .sequence, .table] fun g => by cases g <;> decide

/-- Declarations know a column type by its name. -/
theorem columnType?_eq_some_iff {text : String} {t : JdbcType} :
    columnType? text = some t ↔ capitalWord text = t.name := by
  rw [← find?_name_eq_some_iff JdbcType.find?_name, ← lookup_map_name]
  rfl

/-- Declarations know a strategy by its name. -/
theorem strategy?_eq_some_iff {text : String} {g : KeyStrategy} :
    strategy? text = some g ↔ lower (trim text) = g.name := by
  have hfound (g : KeyStrategy) :
      [.auto, .identity, .sequence, .table].find? (KeyStrategy.name · == g.name) = some g := by
    cases g <;> decide
  rw [← find?_name_eq_some_iff hfound, ← lookup_map_name]
  rfl

/-- Metadata takes the name of a column type as it stands, but for letter case and spaces. -/
theorem columnType_ofText_iff_name {text : String} {t : JdbcType} :
    JdbcType.ofText text = .ok t ↔ underscored [' '] (upper text) = t.name := by
  rw [← find?_name_eq_some_iff JdbcType.find?_name]
  unfold JdbcType.ofText
  split
  next h => simp [h]
  next h => simp [h]

/-- Metadata takes the name of a strategy as it stands, but for letter case. -/
theorem strategy_ofText_iff_name {text : String} {g : KeyStrategy} :
    KeyStrategy.ofText text = .ok g ↔ lower text = g.name := by
  unfold KeyStrategy.ofText
  generalize lower text = word
  dsimp only
  split_ifs <;> cases g <;> simp_all [KeyStrategy.name]

/-- The name of a column type has no dash, and neither a blank nor an underscore at its ends. -/
theorem columnType_name_plain (t : JdbcType) : '-' ∉ t.name.toList ∧
    (∀ c ∈ t.name.toList.head?, isBlank c = false ∧ c ≠ '_') ∧
    ∀ c ∈ t.name.toList.getLast?, isBlank c = false ∧ c ≠ '_' := by
  have hends : t.name.toList.head?.all (fun c => !isBlank c && c != '_') ∧
      t.name.toList.getLast?.all fun c => !isBlank c && c != '_' := by
    cases t <;> decide
  exact ⟨by cases t <;> decide, by simpa [Option.all_eq_true] using hends.1,
    by simpa [Option.all_eq_true] using hends.2⟩

/-- Metadata knows the column type that a text names in a declaration, unless the text has blanks
at its ends or a dash. -/
theorem columnType_ofText_iff {text : String} {t : JdbcType} :
    JdbcType.ofText text = .ok t ↔
      columnType? text = some t ∧ trim text = text ∧ Lacks '-' text := by
  rw [columnType_ofText_iff_name, columnType?_eq_some_iff, capitalWord]
  obtain ⟨hdash, hhead, hlast⟩ := columnType_name_plain t
  have hsame (h : Lacks '-' text) :
      underscored [' ', '-'] (upper text) = underscored [' '] (upper text) :=
    underscored_of_lacks (lacks_upper h (by decide))
  constructor
  · intro hname
    have hlacks : Lacks '-' text := fun hc =>
      hdash (hname ▸ mem_underscored_upper (by decide) (by decide) hc)
    -- A blank at an end would be seen in the name, a space as an underscore.
    have hseen {c : Char} (hblank : isBlank c = true) : ¬ (
        isBlank (if c ∈ [' '] then '_' else c) = false ∧ (if c ∈ [' '] then '_' else c) ≠ '_') := by
      split_ifs <;> simp [hblank]
    have htrimmed : trim text = text := by
      refine trim_eq_self_of_ends (fun c rest hs => ?_) fun front c hs => ?_
      · refine Bool.eq_false_iff.mpr fun hblank => hseen hblank (hhead _ ?_)
        rw [← hname]
        exact head?_underscored_upper hblank hs
      · refine Bool.eq_false_iff.mpr fun hblank => hseen hblank (hlast _ ?_)
        rw [← hname]
        exact getLast?_underscored_upper hblank hs
    exact ⟨by rw [htrimmed, hsame hlacks, hname], htrimmed, hlacks⟩
  · rintro ⟨hname, htrimmed, hlacks⟩
    rw [htrimmed, hsame hlacks] at hname
    exact hname

/-- Metadata knows the strategy that a text names in a declaration, unless the text has blanks at
its ends. -/
theorem strategy_ofText_iff {text : String} {g : KeyStrategy} :
    KeyStrategy.ofText text = .ok g ↔ strategy? text = some g ∧ trim text = text := by
  rw [strategy_ofText_iff_name, strategy?_eq_some_iff]
  constructor
  · intro hname
    have hletters : g.name.toList.all (!isBlank ·) := by cases g <;> decide
    have hnames : ∀ c ∈ g.name.toList, isBlank c = false := by simpa using hletters
    have htrimmed : trim text = text := trim_of_not_isBlank fun c hc =>
      Bool.eq_false_iff.mpr fun hblank => by
        have hmem := mem_lower_of_isBlank hblank hc
        rw [hname] at hmem
        rw [hnames c hmem] at hblank
        cases hblank
    exact ⟨by rw [htrimmed, hname], htrimmed⟩
  · rintro ⟨hname, htrimmed⟩
    rw [htrimmed] at hname
    exact hname

/-- What metadata understands of column types and strategies declarations understand, too, and in
the same way.  The two agree on a text unless it names a column type only without the blanks at its
ends or with underscores for its dashes, or a strategy only without the blanks at its ends. -/
theorem columnWords_agree_iff (text : String) :
    (TakenAlike JdbcType.ofText columnType? columnTypeVariant text ↔
        columnType? text = none ∨ trim text = text ∧ Lacks '-' text) ∧
      (TakenAlike KeyStrategy.ofText strategy? strategyVariant text ↔
        strategy? text = none ∨ trim text = text) ∧
      (∀ t, JdbcType.ofText text = .ok t → columnType? text = some t) ∧
      (∀ g, KeyStrategy.ofText text = .ok g → strategy? text = some g) ∧
      (∀ t, columnType? text = some t ↔ capitalWord text = t.name) ∧
      ∀ g, strategy? text = some g ↔ lower (trim text) = g.name :=
  ⟨takenAlike_iff_of_restricted columnTypeVariant_injective fun _ => columnType_ofText_iff,
    takenAlike_iff_of_restricted strategyVariant_injective fun _ => strategy_ofText_iff,
    fun _ h => (columnType_ofText_iff.mp h).1, fun _ h => (strategy_ofText_iff.mp h).1,
    fun _ => columnType?_eq_some_iff, fun _ => strategy?_eq_some_iff⟩

/-- A column type with dashes and a strategy behind a blank are understood in declarations only. -/
theorem dashed_column_type_refused :
    (columnType? "timestamp-with-timezone").map columnTypeVariant = some "TimestampWithTimezone" ∧
      JdbcType.ofText "timestamp-with-timezone" =
        .error (.invalidSettings "unknown jdbc type: timestamp-with-timezone") ∧
      (strategy? " sequence").map strategyVariant = some "Sequence" ∧
      KeyStrategy.ofText " sequence" =
        .error (.invalidSettings "unknown generation strategy:  sequence") := by
  decide

end Declaration

end EntityMapping
