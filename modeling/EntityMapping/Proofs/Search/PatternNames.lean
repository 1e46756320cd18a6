import EntityMapping.Proofs.Search.Predicates
import EntityMapping.Proofs.Xml.Legibility
import Mathlib.Data.List.Nodup

/-!
# Names of patterns

A pattern is bound to a name before it is compared.  The name states the position of the
condition among those of the entity; what follows the position is the operand, which need not
be read to tell two names apart.

Main results:

- `statedIndex?_bindName`: a name states its position, whatever the operand.
- `Generation.reads_predicate`: what a predicate refers to.
- `Generation.conditionBlock_patternNames`: the names in a block are distinct, and each belongs to
  the one predicate at its position.
- `Generation.entries_refer_across`: a text of a condition may refer to the name of another one.
-/

namespace EntityMapping

/-! ## Positions -/

/-- The position that a name states after its fixed front. -/
def statedIndex? (name : String) : Option Nat :=
  if "__bind_".toList <+: name.toList then
    some (Nat.ofDigitChars 10 ((name.toList.drop 7).takeWhile Char.isDigit) 0)
  else none

/-- The operand does not matter: the digits of the position end at an underscore. -/
theorem statedIndex?_bindName (index : Nat) (operand : String) :
    statedIndex? (Generation.bindName index operand) = some index := by
  have hdigits : ∀ d ∈ Nat.toDigits 10 index, d.isDigit = true := fun d hd =>
    Nat.isDigit_of_mem_toDigits (by decide) (by decide) hd
  have hname := Generation.bindName_toList index operand
  simp only [List.append_assoc] at hname
  rw [statedIndex?, hname, if_pos (List.prefix_append _ _),
    List.drop_left' (by decide : "__bind_".toList.length = 7), List.takeWhile_append_of_pos hdigits,
    List.singleton_append, List.takeWhile_cons_of_neg (by decide), List.append_nil,
    Nat.ofDigitChars_ten_toDigits]

example : statedIndex? (Generation.bindName 1 "2_x") = some 1 ∧
    statedIndex? (Generation.bindName 12 "x") = some 12 := by decide

/-- A path starts at one name only. -/
theorem startsAt_unique {path a b : String} (ha : StartsAt path a) (hb : StartsAt path b) :
    a = b :=
  Option.some.inj (ha.symm.trans hb)

/-! ## Names in templates -/

namespace Template

/-- What the first part gives out is there for the second. -/
theorem mentions_append (first second : Template) (names : List String) :
    (first ++ second).mentions names =
      first.mentions names ++ second.mentions (first.introduced ++ names) := rfl

/-- Both parts give out their names, the latest first. -/
theorem introduced_append (first second : Template) :
    (first ++ second).introduced = second.introduced ++ first.introduced := rfl

@[simp]
theorem introduced_text (sql : String) : (text sql).introduced = [] := rfl

@[simp]
theorem mentions_text (sql : String) (names : List String) : (text sql).mentions names = [] := rfl

/-- The template refers to what a name stands for, or into it. -/
def RefersTo (t : Template) (name : String) : Prop := ∃ m ∈ t.mentions [], StartsAt m.path name

/-- Equivalent templates refer to the same names. -/
theorem Equivalent.refersTo_iff {t u : Template} {name : String} (h : t.Equivalent u) :
    t.RefersTo name ↔ u.RefersTo name := by
  rw [RefersTo, h.mentions, RefersTo]

end Template

namespace Generation

/-! ## Predicates -/

/-- Whether a comparison binds its operand and wildcards of its own to a name. -/
def bindsPattern : Comparison → Bool
  | .startingWith => true
  | .endingWith => true
  | .containing => true
  | .notContaining => true
  | _ => false

/-- The name that a condition binds. -/
def patternName? (p : Property) (c : Condition) (index : Nat) : Option String :=
  if bindsPattern c.comparison then some (bindName index ((operands p c).head?.getD "")) else none

/-- A pattern is named for its index and its first operand. -/
theorem eq_bindName_of_patternName? {p : Property} {c : Condition} {index : Nat} {name : String}
    (h : patternName? p c index = some name) :
    name = bindName index ((operands p c).head?.getD "") := by
  unfold patternName? at h
  split at h
  · exact (Option.some.inj h).symm
  · cases h

/-- The index is read back from the name of a pattern. -/
theorem statedIndex?_of_patternName? {p : Property} {c : Condition} {index : Nat} {name : String}
    (h : patternName? p c index = some name) : statedIndex? name = some index := by
  rw [eq_bindName_of_patternName? h, statedIndex?_bindName]

/-- A bound value declares no pattern. -/
theorem patternNames_boundValue (path : String) (rule : CaseRule) (lowercase : String) :
    (boundValue path rule lowercase).patternNames = [] := by
  unfold boundValue
  split <;> simp

/-- A predicate declares its own pattern, if it takes one. -/
theorem patternNames_predicate (p : Property) (c : Condition) (index : Nat) (d : Dialect) :
    (predicate p c index d).patternNames = (patternName? p c index).toList := by
  have hoperator : (operatorSegment c.comparison).patternNames = [] := by
    rcases operatorSegment_cases c.comparison with h | h <;> rw [h] <;> rfl
  cases hcomparison : c.comparison <;> rw [hcomparison] at hoperator <;>
    simp [predicate, rightSide?, patternName?, bindsPattern, pattern, valueList,
      patternNames_boundValue, hcomparison, leftSide_eq_text, hoperator]

/-- What a predicate refers to: operands in the search object, the item of a list of values, and
the name of its own pattern. -/
inductive Reads (operands : List String) (name? : Option String) : Mention → Prop
  | operand (operand : String) (names : List String) :
    operand ∈ operands → Reads operands name? ⟨Parameter.condition.member operand, names⟩
  | item (names : List String) : "__item" ∈ names → Reads operands name? ⟨"__item", names⟩
  | name (name : String) (names : List String) :
    name ∈ name? → name ∈ names → Reads operands name? ⟨name, names⟩

variable {names : List String} {p : Property} {c : Condition} {d : Dialect}

/-- A bound value mentions its path only. -/
theorem mentions_boundValue (path : String) (rule : CaseRule) (lowercase : String) :
    (boundValue path rule lowercase).mentions names = [⟨path, names⟩] := by
  unfold boundValue
  split <;> rfl

/-- A pattern refers to its operand, and then to its name. -/
theorem mentions_pattern (leading trailing : Bool) (operand : String) (index : Nat)
    (rule : CaseRule) (lowercase : String) :
    (pattern leading trailing operand index rule lowercase).mentions names =
      [⟨Parameter.condition.member operand, names⟩,
        ⟨bindName index operand, bindName index operand :: names⟩] := by
  change _ ++ (boundValue _ _ _).mentions (bindName index operand :: names) = _
  rw [mentions_boundValue]
  rfl

/-- A list of values mentions its operand and its own item. -/
theorem mentions_valueList (operand : String) (rule : CaseRule) (lowercase : String) :
    (valueList operand rule lowercase).mentions names =
      [⟨Parameter.condition.member operand, names⟩,
        ⟨"__item", ["__item", "__index"] ++ names⟩] := by
  change _ :: (boundValue _ _ _).mentions (["__item", "__index"] ++ names) = _
  rw [mentions_boundValue]
  rfl

/-- The right side of a comparison refers to its operands, if there are as many as it takes. -/
theorem reads_rightSide {c : Comparison} {rule : CaseRule} {ops : List String} {index : Nat}
    {lowercase : String} {t : Template} (hops : ops ≠ [])
    (harity : c.arity = 0 ∨ c.arity = ops.length)
    (h : rightSide? c rule ops index lowercase = some t) :
    ∀ m ∈ t.mentions names, Reads ops
      (if bindsPattern c then some (bindName index (ops.head?.getD "")) else none) m := by
  obtain ⟨first, rest, rfl⟩ := List.exists_cons_of_ne_nil hops
  have hoperand : ∀ name? names, ∀ operand ∈ first :: rest, ∀ m ∈
      (boundValue (Parameter.condition.member operand) rule lowercase).mentions names,
      Reads (first :: rest) name? m := by
    intro name? names operand hmem m hm
    rw [mentions_boundValue] at hm
    rw [List.mem_singleton.mp hm]
    exact .operand operand names hmem
  have hpattern : ∀ leading trailing, ∀ m ∈
      (pattern leading trailing first index rule lowercase).mentions names,
      Reads (first :: rest) (some (bindName index first)) m := by
    intro leading trailing
    rw [mentions_pattern, List.forall_mem_cons, List.forall_mem_singleton]
    exact ⟨.operand first names List.mem_cons_self, .name _ _ rfl List.mem_cons_self⟩
  have hlist : ∀ m ∈ (valueList first rule lowercase).mentions names,
      Reads (first :: rest) none m := by
    rw [mentions_valueList, List.forall_mem_cons, List.forall_mem_singleton]
    exact ⟨.operand first names List.mem_cons_self, .item _ List.mem_cons_self⟩
  cases c with
  | between =>
    obtain ⟨second, rfl⟩ := exists_second_of_between harity
    cases h
    have hfirst := hoperand none names first List.mem_cons_self
    have hsecond := fun more =>
      hoperand none more second (List.mem_cons_of_mem _ List.mem_cons_self)
    rw [Template.mentions_append, Template.mentions_append, Template.mentions_text,
      List.append_nil, List.forall_mem_append]
    exact ⟨hfirst, hsecond _⟩
  | startingWith => cases h; exact hpattern _ _
  | endingWith => cases h; exact hpattern _ _
  | containing => cases h; exact hpattern _ _
  | notContaining => cases h; exact hpattern _ _
  | isIn => cases h; exact hlist
  | notIn => cases h; exact hlist
  | isNull => cases h
  | isNotNull => cases h
  | isTrue => cases h
  | isFalse => cases h
  | _ => cases h; exact hoperand none names first List.mem_cons_self

/-- A predicate refers to what its right side refers to. -/
theorem mentions_predicate (p : Property) (c : Condition) (index : Nat) (d : Dialect) :
    (predicate p c index d).mentions names =
      ((rightSide? c.comparison c.caseRule (operands p c) index d.lowercase).toList.flatMap
        fun right => right.mentions names) := by
  have hoperator : (∀ names, (operatorSegment c.comparison).mentions names = []) ∧
      (operatorSegment c.comparison).introduced = [] := by
    rcases operatorSegment_cases c.comparison with h | h <;> rw [h] <;> exact ⟨fun _ => rfl, rfl⟩
  unfold predicate
  split
  · next right hright =>
    simp [hright, Template.mentions_append, Template.introduced_append, leftSide_eq_text, hoperator]
  · next hright => simp [hright, Template.mentions_append, leftSide_eq_text, hoperator]

/-- A predicate refers to its operands, to items of a list and to its own name. -/
theorem reads_predicate (index : Nat)
    (harity : c.comparison.arity = 0 ∨ c.comparison.arity = (operands p c).length) :
    ∀ m ∈ (predicate p c index d).mentions names,
      Reads (operands p c) (patternName? p c index) m := by
  rw [mentions_predicate]
  cases hright : rightSide? c.comparison c.caseRule (operands p c) index d.lowercase with
  | none => exact List.forall_mem_nil _
  | some right =>
    rw [Option.toList_some, List.flatMap_singleton]
    exact reads_rightSide (operands_ne_nil p c) harity hright

/-! ## Items -/

variable {e : Entity} {index : Nat} {item : Template}

/-- The item of a condition declares the pattern of its predicate. -/
theorem patternNames_conditionItem (h : conditionItem e p c index d = .ok item) :
    item.patternNames = (patternName? p c index).toList := by
  obtain ⟨_, _, h⟩ := bind_eq_ok.mp h
  cases h
  simp [patternNames_predicate]

/-- A guarded predicate refers to its operands, to items of a list and to its own name. -/
theorem reads_conditionItem (h : conditionItem e p c index d = .ok item) :
    ∀ m ∈ item.mentions names, Reads (operands p c) (patternName? p c index) m := by
  obtain ⟨_, harity, h⟩ := bind_eq_ok.mp h
  cases h
  refine List.forall_mem_append.mpr ⟨?_, ?_⟩
  · intro m hm
    obtain ⟨path, hpath, rfl⟩ := List.mem_map.mp hm
    obtain ⟨operand, hoperand, rfl⟩ := List.mem_map.mp hpath
    exact .operand operand names hoperand
  · rw [Template.mentions_append, Template.mentions_text, List.nil_append]
    exact reads_predicate index ((checkArity_eq_ok_iff ..).mp harity)

/-- A guarded predicate refers to no pattern but its own. -/
theorem mem_patternName?_of_refersTo {i : Nat} {operand : String}
    (h : conditionItem e p c index d = .ok item) (hrefers : item.RefersTo (bindName i operand)) :
    bindName i operand ∈ patternName? p c index := by
  obtain ⟨m, hm, hstarts⟩ := hrefers
  cases reads_conditionItem h m hm with
  | operand other names _ =>
    have hcondition := startsAt_inside (parameter_plain .condition) other
    exact absurd (startsAt_unique hcondition hstarts) (bindName_free i operand .condition)
  | item names _ =>
    have hstated := statedIndex?_bindName i operand
    rw [← startsAt_unique (by decide : StartsAt "__item" "__item") hstarts] at hstated
    cases hstated
  | name own names hown _ =>
    have hplain : '.' ∉ own.toList := by
      rw [eq_bindName_of_patternName? hown]
      exact bindName_plain _ _
    rwa [← startsAt_unique (startsAt_self hplain) hstarts]

/-- The predicate that binds a pattern compares with it. -/
theorem refersTo_patternName {name : String} (h : conditionItem e p c index d = .ok item)
    (hname : name ∈ patternName? p c index) : item.RefersTo name := by
  obtain ⟨_, _, h⟩ := bind_eq_ok.mp h
  cases h
  have hown := eq_bindName_of_patternName? hname
  subst hown
  have hmention : ∃ m ∈ (predicate p c index d).mentions [], m.path = bindName index
      ((operands p c).head?.getD "") := by
    rw [mentions_predicate]
    unfold patternName? bindsPattern at hname
    cases hcomparison : c.comparison <;> rw [hcomparison] at hname <;>
      simp [rightSide?, mentions_pattern] at hname ⊢
  obtain ⟨m, hm, hpath⟩ := hmention
  refine ⟨m, List.mem_append_right _ hm, ?_⟩
  rw [hpath]
  exact startsAt_self (bindName_plain _ _)

/-- Only the predicate at the position that a name states binds the name or refers to it. -/
theorem eq_index_of_use {i : Nat} {operand : String} (h : conditionItem e p c index d = .ok item)
    (huse : bindName i operand ∈ item.patternNames ∨ item.RefersTo (bindName i operand)) :
    index = i := by
  have hown : bindName i operand ∈ patternName? p c index := by
    rcases huse with hbound | hrefers
    · rwa [patternNames_conditionItem h, Option.mem_toList] at hbound
    · exact mem_patternName?_of_refersTo h hrefers
  have hstated := statedIndex?_of_patternName? hown
  rw [statedIndex?_bindName] at hstated
  exact (Option.some.inj hstated).symm

/-- The texts of a condition have neither elements nor references of their own: its operands are
paths of names, and what it compares is SQL without the signs that begin a tag or a reference. -/
def IsLegible (p : Property) (c : Condition) (d : Dialect) : Prop :=
  (∀ operand ∈ operands p c, IsPlainPath operand) ∧ IsPlainSql (comparedColumn p c d)

instance (p : Property) (c : Condition) (d : Dialect) : Decidable (IsLegible p c d) :=
  inferInstanceAs (Decidable ((∀ _ ∈ _, _) ∧ _))

/-- What a legible condition compares is legible. -/
theorem IsLegible.admits_column (h : IsLegible p c d) :
    Rule.legible.Admits .text (comparedColumn p c d) := Rule.legible_text_iff.mpr h.2

/-- The operands of a legible condition are legible as paths and as attributes. -/
theorem IsLegible.admits_operand (h : IsLegible p c d) (operand : String)
    (hoperand : operand ∈ operands p c) :
    Rule.legible.Admits .path operand ∧ Rule.legible.Admits .attribute operand :=
  ⟨Rule.admits_of_isPlainPath (h.1 operand hoperand) .path,
    Rule.admits_of_isPlainPath (h.1 operand hoperand) .attribute⟩

/-- The guarded predicate of a legible condition is legible. -/
theorem IsLegible.follows (h : IsLegible p c d) (hmade : conditionItem e p c index d = .ok item) :
    item.Follows Rule.legible :=
  conditionItem_follows Rule.legible_isLenient h.admits_column h.admits_operand hmade

/-! ## Blocks -/

/-- A guarded predicate of a block is that of the condition at its position. -/
theorem exists_conditionItem {conditions : List (Property × Condition)} {items : List Template}
    (h : conditionItems e d 0 conditions = .ok items) (hitem : items[index]? = some item) :
    ∃ pc, conditions[index]? = some pc ∧ conditionItem e pc.1 pc.2 index d = .ok item := by
  have hplace := conditionItems_getElem? h index
  rwa [hitem, Nat.zero_add, Option.map_some, Option.map_eq_some_iff] at hplace

/-- Names are distinct if each states the position of the part that it stands in. -/
theorem nodup_flatMap_of_stated {α : Type} {items : List α} {names : α → List String}
    (hnodup : ∀ item ∈ items, (names item).Nodup)
    (hstated : ∀ i item, items[i]? = some item → ∀ name ∈ names item,
      statedIndex? name = some i) : (items.flatMap names).Nodup := by
  rw [List.nodup_flatMap]
  refine ⟨hnodup, List.pairwise_iff_getElem.mpr fun i j hi hj hij => ?_⟩
  intro name hfirst hsecond
  have hindex := hstated i _ (List.getElem?_eq_getElem hi) name hfirst
  rw [hstated j _ (List.getElem?_eq_getElem hj) name hsecond] at hindex
  exact absurd (Option.some.inj hindex) hij.ne'

/-- The patterns of a block have different names. -/
theorem nodup_patternNames {conditions : List (Property × Condition)} {items : List Template}
    (h : conditionItems e d 0 conditions = .ok items) :
    (items.flatMap Template.patternNames).Nodup := by
  apply nodup_flatMap_of_stated
  · intro item hmem
    obtain ⟨i, hitem⟩ := List.getElem?_of_mem hmem
    obtain ⟨pc, _, hmade⟩ := exists_conditionItem h hitem
    rw [patternNames_conditionItem hmade]
    cases patternName? pc.1 pc.2 i <;> simp
  · intro i item hitem name hname
    obtain ⟨pc, _, hmade⟩ := exists_conditionItem h hitem
    rw [patternNames_conditionItem hmade] at hname
    exact statedIndex?_of_patternName? (Option.mem_toList.mp hname)

/-- The block of legible conditions is legible. -/
theorem follows_conditionBlock {t : Template} (h : ∀ pc ∈ conditionsOf e, IsLegible pc.1 pc.2 d)
    (hblock : conditionBlock e d = .ok t) : t.Follows Rule.legible :=
  conditionBlock_follows Rule.legible_isLenient (fun pc hpc => (h pc hpc).admits_column)
    (fun pc hpc => (h pc hpc).admits_operand) hblock

/-- The names of the patterns in a block are distinct and without dots.  Each is bound by the
predicate at the position that it states, and of the references that generation makes only those of
this predicate lead to it.  If the texts of a condition have no references of their own, its
predicate is read back from its print and refers to no name but its own; if none of them has, the
block is read back with its names. -/
theorem conditionBlock_patternNames {t : Template} (h : conditionBlock e d = .ok t) :
    ∃ items : List Template,
      t = .guard (.notNull [Parameter.condition.name]) (.concat items) ∧
      items.length = (conditionsOf e).length ∧
      t.patternNames.Nodup ∧
      (∀ name ∈ t.patternNames, '.' ∉ name.toList ∧
        ∃ i item, statedIndex? name = some i ∧ items[i]? = some item ∧
          item.patternNames = [name] ∧ item.RefersTo name ∧
          ∀ j other, items[j]? = some other →
            name ∈ other.patternNames ∨ other.RefersTo name → j = i) ∧
      (∀ i p c item, (conditionsOf e)[i]? = some (p, c) → items[i]? = some item →
        item.patternNames = (patternName? p c i).toList ∧
        (IsLegible p c d → ∃ u, Template.read? item.print = some u ∧
          u.patternNames = item.patternNames ∧
          ∀ name ∈ t.patternNames, u.RefersTo name → u.patternNames = [name])) ∧
      ((∀ pc ∈ conditionsOf e, IsLegible pc.1 pc.2 d) →
        ∃ u, Template.read? t.print = some u ∧ u.patternNames = t.patternNames) := by
  obtain ⟨items, hitems, hblock⟩ := bind_eq_ok.mp h
  cases hblock
  have hnames : (Template.guard (.notNull [Parameter.condition.name])
      (.concat items)).patternNames = items.flatMap Template.patternNames :=
    Template.patternNames_concat items
  -- A name is that of the condition at its position, and belongs to the predicate there.
  have howner : ∀ name ∈ items.flatMap Template.patternNames, ∃ (i : Nat) (item : Template)
      (pc : Property × Condition), items[i]? = some item ∧ item.patternNames = [name] ∧
        patternName? pc.1 pc.2 i = some name ∧ conditionItem e pc.1 pc.2 i d = .ok item := by
    intro name hname
    obtain ⟨item, hmem, hown⟩ := List.mem_flatMap.mp hname
    obtain ⟨i, hitem⟩ := List.getElem?_of_mem hmem
    obtain ⟨pc, _, hmade⟩ := exists_conditionItem hitems hitem
    have howned := patternNames_conditionItem hmade
    have hpattern : patternName? pc.1 pc.2 i = some name := by
      rwa [howned, Option.mem_toList] at hown
    exact ⟨i, item, pc, hitem, by rw [howned, hpattern, Option.toList_some], hpattern, hmade⟩
  rw [hnames]
  refine ⟨items, rfl, length_conditionItems hitems, nodup_patternNames hitems, ?_, ?_, ?_⟩
  · intro name hname
    obtain ⟨i, item, pc, hitem, hown, hpattern, hmade⟩ := howner name hname
    obtain rfl := eq_bindName_of_patternName? hpattern
    refine ⟨bindName_plain _ _, i, item, statedIndex?_bindName _ _, hitem, hown,
      refersTo_patternName hmade hpattern, ?_⟩
    intro j other hother huse
    obtain ⟨_, _, hmade⟩ := exists_conditionItem hitems hother
    exact eq_index_of_use hmade huse
  · intro i p c item hpc hitem
    obtain ⟨pc, hfound, hmade⟩ := exists_conditionItem hitems hitem
    obtain rfl : pc = (p, c) := Option.some.inj (hfound.symm.trans hpc)
    refine ⟨patternNames_conditionItem hmade, fun hlegible => ?_⟩
    obtain ⟨u, hu, hlike⟩ := (hlegible.follows hmade).read?_print
    refine ⟨u, hu, hlike.patternNames, fun name hname hrefers => ?_⟩
    obtain ⟨j, other, _, hother, hown, hpattern, _⟩ := howner name hname
    obtain rfl := eq_bindName_of_patternName? hpattern
    obtain rfl := eq_index_of_use hmade (.inr (hlike.refersTo_iff.mp hrefers))
    obtain rfl : item = other := Option.some.inj (hitem.symm.trans hother)
    rw [hlike.patternNames, hown]
  · intro hlegible
    obtain ⟨u, hu, hlike⟩ := (follows_conditionBlock hlegible h).read?_print
    exact ⟨u, hu, hlike.patternNames.trans hnames⟩

/-- Letters, with conditions that share operands and operands that look like positions. -/
def letters : Entity :=
  let text (name : String) (conditions : List Condition) :=
    { Property.plain .basic name "String" ⟨.plain name, .varchar⟩ with conditions }
  { Entity.plain "app::Letter" "letters" with
    properties :=
      [text "title"
        [.plain .startingWith, .plain .simpleProperty, ⟨.containing, .always, none, []⟩],
      text "sender"
        [⟨.endingWith, .never, none, ["2_x"]⟩, ⟨.notContaining, .never, none, ["from.name"]⟩,
          ⟨.containing, .never, none, ["title"]⟩]] }

/-- All patterns of the letters keep their own names, also in their print. -/
theorem conditionBlock_patternNames_letters :
    ∃ t u, conditionBlock letters .postgres = .ok t ∧ t.patternNames.Nodup ∧
      Template.read? t.print = some u ∧
      u.patternNames = ["__bind_0_title", "__bind_2_title", "__bind_3_2_x", "__bind_4_from_name",
        "__bind_5_title"] := by
  obtain ⟨items, _, _, hnodup, _, _, hprint⟩ :=
    conditionBlock_patternNames (e := letters) (d := .postgres) rfl
  obtain ⟨u, hu, hnames⟩ := hprint (by decide)
  exact ⟨_, u, rfl, hnodup, hu, hnames.trans (by decide)⟩

/-! ## References across predicates -/

/-- Entries with a condition in front of a pattern. -/
def entries (first : Condition) : Entity :=
  let text (name : String) (condition : Condition) :=
    { Property.plain .basic name "String" ⟨.plain name, .varchar⟩ with conditions := [condition] }
  { Entity.plain "app::Entry" "entries" with
    properties := [text "a" first, text "c" (.plain .containing)] }

/-- The first predicate of the entries is printed with a reference to the name that the second one
binds, and binds none itself. -/
def RefersAcross (first : Condition) : Prop :=
  ∃ item other u, conditionBlock (entries first) .postgres =
      .ok (.guard (.notNull [Parameter.condition.name]) (.concat [item, other])) ∧
    other.patternNames = ["__bind_1_c"] ∧ Template.read? item.print = some u ∧
    u.patternNames = [] ∧ u.RefersTo "__bind_1_c"

/-- A predicate that is printed like a legible template refers to what the template refers to. -/
theorem refersAcross_of_print {first : Condition} {item other u : Template}
    (hblock : conditionBlock (entries first) .postgres =
      .ok (.guard (.notNull [Parameter.condition.name]) (.concat [item, other])))
    (hother : other.patternNames = ["__bind_1_c"]) (hu : u.Follows Rule.legible)
    (hprint : item.print = u.print) (hnone : u.patternNames = [])
    (hmention : ⟨"__bind_1_c", []⟩ ∈ u.mentions []) : RefersAcross first := by
  obtain ⟨v, hv, hlike⟩ := hu.read?_print
  have hrefers : u.RefersTo "__bind_1_c" := ⟨_, hmention, startsAt_self (by decide)⟩
  exact ⟨item, other, v, hblock, hother, hprint ▸ hv, hlike.patternNames.trans hnone,
    hlike.refersTo_iff.mpr hrefers⟩

/-- An expression that is compared and the text of an operand may refer to the name of another
predicate. -/
theorem entries_refer_across :
    RefersAcross ⟨.simpleProperty, .never, some "concat(a, #\x7b__bind_1_c\x7d)", []⟩ ∧
    RefersAcross ⟨.isNull, .never, none, ["a != null and __bind_1_c"]⟩ := by
  constructor
  · let u := Template.guard (.notNull ["__condition.a"])
      (.text " and concat(a, " ++ .value "__bind_1_c" none ++ .text ") = " ++
        .value "__condition.a" none)
    exact refersAcross_of_print (u := u) rfl (by decide) (by decide) (by decide +kernel)
      (by decide) (by decide)
  · let u := Template.guard (.notNull ["__condition.a", "__bind_1_c"]) (.text " and a  is null")
    exact refersAcross_of_print (u := u) rfl (by decide) (by decide) (by decide +kernel)
      (by decide) (by decide)

end Generation

end EntityMapping
