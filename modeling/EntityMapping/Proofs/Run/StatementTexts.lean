import EntityMapping.Proofs.Engine.Pieces
import EntityMapping.Proofs.Run.Building
import EntityMapping.Proofs.Run.MetadataTexts

/-!
# Texts of the statements

Every statement of a repository is put together from fixed words and texts of the metadata.  If
a rule admits these where they stand, the statement follows the rule.  The lemmas go along the
parts of the statements: what is bound, what is compared, keys, conditions, and the statements
themselves.

Main results:

- `Generation.conditionItem_follows`, `Generation.associationOf_follows`: parts follow a rule
  that admits their own texts.
- `Generator.make_follows`: so does every statement.
-/

namespace EntityMapping

variable {R : Rule}

/-- The statement's own texts may stand in its attributes, and its body follows the rule. -/
structure Statement.Follows (R : Rule) (s : Statement) : Prop where
  id : R.Admits .escaped s.id
  parameterType : ∀ typeName ∈ s.parameterType?, R.Admits .escaped typeName
  resultType : ∀ typeName ∈ s.resultType?, R.Admits .escaped typeName
  resultMap : ∀ id ∈ s.resultMap?, R.Admits .escaped id
  key : ∀ key ∈ s.key?, R.Admits .escaped key.property ∧ R.Admits .escaped key.column
  body : s.body.Follows R

/-- Whether values are spliced into the statement of a name. -/
def StatementName.splices (name : StatementName) : Prop :=
  name = .find ∨ name = .findByPager ∨ name ∈ StatementName.exemplary

/-! ## Fixed words -/

namespace Rule.IsLenient

variable {site : Site} {path : String}

/-- Text of standard characters follows every lenient rule. -/
theorem text (hR : R.IsLenient) (sql : String)
    (h : sql.toList.all Site.text.standard = true) : (Template.text sql).Follows R :=
  Template.follows_text (hR.word h)

/-- A bound value whose path is of standard characters follows every lenient rule. -/
theorem value (hR : R.IsLenient) (path : String)
    (h : path.toList.all Site.path.standard = true) : (Template.value path none).Follows R :=
  Template.follows_value (hR.word h) none

/-- A spliced value does so if the rule allows splicing. -/
theorem splice (hR : R.IsLenient) (hsplices : R.splices) (path : String)
    (h : path.toList.all Site.path.standard = true) : (Template.splice path).Follows R :=
  ⟨hsplices, hR.word h⟩

/-- A test whose path is of standard characters follows every lenient rule. -/
theorem holds (hR : R.IsLenient) (path : String)
    (h : path.toList.all Site.path.standard = true) : (Test.holds path).Follows R :=
  ⟨List.cons_ne_nil _ _, List.forall_mem_singleton.mpr (hR.word h)⟩

/-- The settings of an element that are all fixed words. -/
theorem settings {α : Type} (hR : R.IsLenient) {settings : List (α × String)}
    (h : settings.all (fun s => s.2.toList.all Site.attribute.standard) = true) :
    ∀ setting ∈ settings, R.Admits .attribute setting.2 := fun setting hsetting =>
  hR.word (List.all_eq_true.mp h setting hsetting)

/-- Every lenient rule admits the parameters. -/
theorem parameter (hR : R.IsLenient) (p : Parameter) : R.Admits site p.name := by
  apply hR.word
  cases p <;> cases site <;> decide

/-- Every lenient rule admits what is inside a parameter, if it admits the path. -/
theorem parameterMember (hR : R.IsLenient) (p : Parameter) (hpath : R.Admits site path) :
    R.Admits site (p.member path) := by
  have hdot : R.Admits site "." := hR.word (by cases site <;> decide)
  simp [Parameter.member, hR.parameter, hpath, hdot]

/-- Every lenient rule admits the ids of statements. -/
theorem statementId (hR : R.IsLenient) (name : StatementName) : R.Admits site name.id := by
  apply hR.word
  cases name <;> cases site <;> decide

/-- Every lenient rule admits the name of a pattern, if it admits the operand. -/
theorem bindName (hR : R.IsLenient) (index : Nat) (hpath : R.Admits site path) :
    R.Admits site (Generation.bindName index path) := by
  have hfront : R.Admits site "__bind_" := hR.word (by cases site <;> decide)
  have hmiddle : R.Admits site "_" := hR.word (by cases site <;> decide)
  have hindex : R.Admits site (toString index) := hR.repr index
  simp only [Generation.bindName, admits_append]
  exact ⟨⟨⟨hfront, hindex⟩, hmiddle⟩, hR.underscored hpath _⟩

end Rule.IsLenient

/-! ## Parts of statements -/

namespace Generation

variable {path : String} {d : Dialect}

/-- What is guarded by its presence follows a rule that admits the path. -/
theorem whenPresent_follows {body : Template} (hpath : R.Admits .path path)
    (hbody : body.Follows R) : (whenPresent path body).Follows R :=
  ⟨⟨List.cons_ne_nil _ _, List.forall_mem_singleton.mpr hpath⟩, hbody⟩

/-! ### Conditions -/

/-- Every lenient rule admits the function that folds the letter case. -/
theorem lowercase_admits (hR : R.IsLenient) (d : Dialect) : R.Admits .text (d.lowercase ++ "(") :=
  hR.word (by decide : ("lower" ++ "(").toList.all Site.text.standard = true)

/-- A bound value follows a rule that admits its path, folded or not. -/
theorem boundValue_follows (hR : R.IsLenient) (hpath : R.Admits .path path) (rule : CaseRule)
    (d : Dialect) : (boundValue path rule d.lowercase).Follows R := by
  have hvalue := Template.follows_value hpath none
  unfold boundValue
  split
  · have hopening := Template.follows_text (lowercase_admits hR d)
    exact (hopening.append hvalue).append (hR.text _ (by decide))
  · exact hvalue

/-- A pattern follows a rule that admits its operand where it is bound and where it is used. -/
theorem pattern_follows (hR : R.IsLenient) {operand : String} {leading trailing : Bool}
    (hpath : R.Admits .path operand) (hattribute : R.Admits .attribute operand) (index : Nat)
    (rule : CaseRule) (d : Dialect) :
    (pattern leading trailing operand index rule d.lowercase).Follows R :=
  Template.Follows.append ⟨hR.bindName index hattribute, hR.parameterMember .condition hpath⟩
    (boundValue_follows hR (hR.bindName index hpath) rule d)

/-- A list of values follows a rule that admits its operand. -/
theorem valueList_follows (hR : R.IsLenient) {operand : String}
    (hattribute : R.Admits .attribute operand) (rule : CaseRule) (d : Dialect) :
    (valueList operand rule d.lowercase).Follows R := by
  refine ⟨by simp, fun setting hsetting => ?_, boundValue_follows hR (hR.word (by decide)) rule d⟩
  simp only [List.mem_cons, List.not_mem_nil, or_false] at hsetting
  rcases hsetting with rfl | rfl | rfl | rfl | rfl | rfl
  · exact hR.word (by decide)
  · exact hR.word (by decide)
  · exact hR.parameterMember .condition hattribute
  · exact hR.word (by decide)
  · exact hR.word (by decide)
  · exact hR.word (by decide)

/-- The right side of a comparison follows a rule that admits its operands. -/
theorem rightSide_follows (hR : R.IsLenient) {c : Comparison} {rule : CaseRule}
    {operands : List String} {index : Nat} {t : Template}
    (hoperands : ∀ operand ∈ operands, R.Admits .path operand ∧ R.Admits .attribute operand)
    (h : rightSide? c rule operands index d.lowercase = some t) : t.Follows R := by
  have hempty : ∀ site, R.Admits site "" := fun site => hR.word rfl
  have hfirst : R.Admits .path (operands.head?.getD "") ∧
      R.Admits .attribute (operands.head?.getD "") := by
    cases hhead : operands.head? with
    | none => exact ⟨hempty _, hempty _⟩
    | some first => exact hoperands first (List.mem_of_head? hhead)
  have hsecond : R.Admits .path ((operands[1]?).getD "") := by
    cases hnext : operands[1]? with
    | none => exact hempty _
    | some second => exact (hoperands second (List.mem_of_getElem? hnext)).1
  have hoperand : ∀ operand, R.Admits .path operand →
      (boundValue (Parameter.condition.member operand) rule d.lowercase).Follows R :=
    fun operand hadmits => boundValue_follows hR (hR.parameterMember .condition hadmits) rule d
  have hpattern : ∀ leading trailing,
      (pattern leading trailing (operands.head?.getD "") index rule d.lowercase).Follows R :=
    fun leading trailing => pattern_follows hR hfirst.1 hfirst.2 index rule d
  have hlist := valueList_follows hR hfirst.2 rule d
  cases c with
  | between =>
    cases h
    have hand := hR.text " and " (by decide)
    exact ((hoperand _ hfirst.1).append hand).append (hoperand _ hsecond)
  | startingWith => cases h; exact hpattern false true
  | endingWith => cases h; exact hpattern true false
  | containing => cases h; exact hpattern true true
  | notContaining => cases h; exact hpattern true true
  | isIn => cases h; exact hlist
  | notIn => cases h; exact hlist
  | isNull => cases h
  | isNotNull => cases h
  | isTrue => cases h
  | isFalse => cases h
  | _ => cases h; exact hoperand _ hfirst.1

/-- Every operator follows a lenient rule. -/
theorem operatorSegment_follows (hR : R.IsLenient) (c : Comparison) :
    (operatorSegment c).Follows R := by
  unfold operatorSegment characterData
  split
  · next hangle =>
    have hsigns : (operator c).toList.all isSign = true := by
      cases c <;> revert hangle <;> decide
    exact hsigns
  · next hangle =>
    refine hR.text _ ?_
    cases c <;> revert hangle <;> decide

/-- The left side of a comparison follows a rule that admits the compared column. -/
theorem leftSide_follows (hR : R.IsLenient) {column : String} (hcolumn : R.Admits .text column)
    (rule : CaseRule) (d : Dialect) : (leftSide column rule d.lowercase).Follows R := by
  unfold leftSide
  split
  · have hclosing : R.Admits .text ")" := hR.word (by decide)
    apply Template.follows_text
    rw [Rule.admits_append, Rule.admits_append]
    exact ⟨⟨lowercase_admits hR d, hcolumn⟩, hclosing⟩
  · exact hcolumn

/-- The test of a condition reads its operands, of which there is one at least. -/
theorem operandTest_paths_ne_nil (p : Property) (c : Condition) : (operandTest p c).paths ≠ [] :=
  fun hnone => operands_ne_nil p c (List.map_eq_nil_iff.mp hnone)

/-- A guarded predicate follows a rule that admits its compared column and its operands. -/
theorem conditionItem_follows (hR : R.IsLenient) {e : Entity} {p : Property} {c : Condition}
    {index : Nat} {t : Template} (hcolumn : R.Admits .text (comparedColumn p c d))
    (hoperands : ∀ operand ∈ operands p c, R.Admits .path operand ∧ R.Admits .attribute operand)
    (h : conditionItem e p c index d = .ok t) : t.Follows R := by
  obtain ⟨_, _, h⟩ := bind_eq_ok.mp h
  cases h
  have hleft := leftSide_follows hR hcolumn c.caseRule d
  have hblank := hR.text " " (by decide)
  have hand := hR.text " and " (by decide)
  have hcomparison := (hleft.append hblank).append (operatorSegment_follows hR c.comparison)
  have hpredicate : (predicate p c index d).Follows R := by
    unfold predicate
    split
    · next right hright =>
      exact (hcomparison.append hblank).append (rightSide_follows hR hoperands hright)
    · exact hcomparison
  refine ⟨⟨operandTest_paths_ne_nil p c, fun text htext => ?_⟩, hand.append hpredicate⟩
  obtain ⟨operand, hoperand, rfl⟩ := List.mem_map.mp htext
  exact hR.parameterMember .condition (hoperands operand hoperand).1

/-- The condition block follows a rule that admits the compared columns and the operands. -/
theorem conditionBlock_follows (hR : R.IsLenient) {e : Entity} {t : Template}
    (hcolumns : ∀ pc ∈ conditionsOf e, R.Admits .text (comparedColumn pc.1 pc.2 d))
    (hoperands : ∀ pc ∈ conditionsOf e, ∀ operand ∈ operands pc.1 pc.2,
      R.Admits .path operand ∧ R.Admits .attribute operand)
    (h : conditionBlock e d = .ok t) : t.Follows R := by
  obtain ⟨items, hitems, h⟩ := bind_eq_ok.mp h
  cases h
  refine whenPresent_follows (hR.parameter .condition) (Template.follows_concat fun t ht => ?_)
  obtain ⟨pc, hpc, _, hitem⟩ := (conditionItems_mem hitems).1 t ht
  exact conditionItem_follows hR (hcolumns pc hpc) (hoperands pc hpc) hitem

/-! ### Result maps and generated keys -/

/-- An entry of a result map follows a rule that admits its names. -/
theorem resultOf_follows {p : Property} {isKey : Bool} (hname : R.Admits .attribute p.name)
    (hcolumn : R.Admits .attribute p.column.name.text) : (resultOf isKey p).Follows R :=
  ⟨hname, hcolumn⟩

/-- An association follows a rule that admits the names of its members. -/
theorem associationOf_follows {p : Property} {e : Entity} (hname : R.Admits .attribute p.name)
    (hmembers : ∀ member ∈ e.properties,
      R.Admits .attribute member.name ∧ R.Admits .attribute member.column.name.text) :
    (associationOf p e).Follows R := by
  refine ⟨hname, Template.follows_concat fun t ht => ?_⟩
  obtain ⟨member, hmember, rfl⟩ := List.mem_map.mp ht
  exact resultOf_follows (hmembers member hmember).1 (hmembers member hmember).2

/-- The element that obtains a key follows a rule that admits its attributes and its SQL. -/
theorem keySelect_follows {e : Entity} {p : Property} {generation : KeyGeneration}
    {defaultSequence sql : String} {timing found : KeyTiming} {t : Template}
    (hname : R.Admits .attribute p.name) (hcolumn : R.Admits .attribute p.column.name.text)
    (htype : R.Admits .escaped p.typeName)
    (hsql : keySql e p generation d defaultSequence = .ok (sql, found))
    (hadmits : R.Admits .text sql)
    (h : keySelect e p generation d defaultSequence = .ok (t, timing)) : t.Follows R := by
  rw [keySelect, hsql] at h
  cases h
  exact ⟨hname, hcolumn, htype, hadmits⟩

end Generation

/-! ## Page windows -/

/-- A page window follows the rules that its query follows. -/
theorem Dialect.window_follows (hR : R.IsLenient) (d : Dialect) {query : Template}
    (h : query.Follows R) : (d.window query).Follows R := by
  have hoffset : (Template.value Parameter.offset.name none).Follows R :=
    Template.follows_value (hR.parameter .offset) none
  have hsize : (Template.value Parameter.pageSize.name none).Follows R :=
    Template.follows_value (hR.parameter .pageSize) none
  cases d with
  | postgres | h2 =>
    exact (((h.append (hR.text _ (by decide))).append hsize).append
      (hR.text _ (by decide))).append hoffset
  | mysql =>
    exact (((h.append (hR.text _ (by decide))).append hoffset).append
      (hR.text _ (by decide))).append hsize
  | oracle =>
    have hle : (Template.cdata "<=").Follows R := (by decide : "<=".toList.all isSign = true)
    have hgt : (Template.cdata ">").Follows R := (by decide : ">".toList.all isSign = true)
    have hfront :=
      (hR.text "select * from ( select row_.*, rownum rownum_ from ( " (by decide)).append h
    have hlast := ((((hfront.append (hR.text " ) row_ where rownum " (by decide))).append
      hle).append (hR.text " " (by decide))).append
        hoffset).append (hR.text " + " (by decide))
    have hwindow := (hlast.append hsize).append
      (hR.text " ) where rownum_ " (by decide))
    exact ((hwindow.append hgt).append (hR.text _ (by decide))).append hoffset

/-! ## Statements -/

namespace Generator

open Generation

variable {g : Generator} {t : Template} {slots : List Slot} {s : Statement}

/-- An attribute that is not given has no text. -/
theorem forall_mem_none {α : Type} {p : α → Prop} : ∀ a ∈ (none : Option α), p a := by
  intro a ha
  exact absurd ha (Option.not_mem_none a)

/-- A statement with nothing but its body. -/
theorem statement_follows (hR : R.IsLenient) {body : Template} (kind : StatementKind)
    (name : StatementName) (hbody : body.Follows R) : (g.statement kind name body).Follows R where
  id := hR.statementId name
  parameterType := forall_mem_none
  resultType := forall_mem_none
  resultMap := forall_mem_none
  key := forall_mem_none
  body := hbody

section

variable (hR : R.IsLenient) (hg : g.Obeys R)

include hR hg

/-- A text with the table in it. -/
theorem aroundTable_follows {before after : String}
    (hbefore : before.toList.all Site.text.standard = true)
    (hafter : after.toList.all Site.text.standard = true) :
    (Template.text (before ++ g.table ++ after)).Follows R := by
  apply Template.follows_text
  simp [hR.word hbefore, hR.word hafter, hg.table hR]

/-- Text that ends in the table follows the rule. -/
theorem afterTable_follows {before : String}
    (hbefore : before.toList.all Site.text.standard = true) :
    (Template.text (before ++ g.table)).Follows R := by
  apply Template.follows_text
  simp [hR.word hbefore, hg.table hR]

/-- A column with a fixed word behind it. -/
theorem column_follows (hslots : g.slots = .ok slots) {slot : Slot} (hslot : slot ∈ slots)
    {after : String} (hafter : after.toList.all Site.text.standard = true) :
    (Template.text (g.column slot ++ after)).Follows R := by
  apply Template.follows_text
  simp [hR.word hafter, (hg.slot hR hslots hslot).2.2.1]

/-! ### Keys -/

/-- A match of the key follows the rule. -/
theorem keyMatch_follows {source : KeySource} (hmatch : g.keyMatch source = .ok t) :
    t.Follows R := by
  have hsource : ∀ simple slots, g.slots = .ok slots → ∀ slot ∈ slots,
      R.Admits .path (source.path simple slot) := by
    intro simple slots hslots slot hslot
    obtain ⟨hpath, hmember, _, _⟩ := hg.slot hR hslots hslot
    cases source with
    | parameter => exact hmember _
    | id =>
      cases simple with
      | true => exact hR.parameter .id
      | false => exact hR.parameterMember .id (hmember _)
    | entity => exact hR.parameterMember .entity (hpath _)
  unfold keyMatch at hmatch
  split at hmatch
  · cases hmatch
  · obtain ⟨keys, hkeys, rfl⟩ := map_eq_ok.mp hmatch
    obtain ⟨slots, hslots, rfl⟩ := map_eq_ok.mp hkeys
    refine Template.follows_join (hR.word (by decide)) fun part hpart => ?_
    obtain ⟨slot, hslot, rfl⟩ := List.mem_map.mp hpart
    have hmem := (List.mem_filter.mp hslot).1
    exact (column_follows hR hg hslots hmem (by decide)).append
      (Template.follows_value (hsource _ slots hslots slot hmem) _)

/-- A match of keys follows the rule. -/
theorem keysMatch_follows (hmatch : g.keysMatch = .ok t) : t.Follows R := by
  unfold keysMatch at hmatch
  split at hmatch
  · cases hmatch
  · next p hkey =>
    cases hmatch
    have hp := Entity.mem_of_key_simple hkey
    have hcolumn : R.Admits .text (p.column.name.render g.dialect ++ " in ") := by
      have htext : R.Admits .text p.column.name.text := hg.column hp (by decide)
      rw [Rule.admits_append]
      exact ⟨hR.render htext _ (.inl rfl), hR.word (by decide)⟩
    have hloop : (Template.loop
        [(.collection, Parameter.ids.name), (.item, "item"), (.index, "index"), (.opening, "("),
          (.separator, ","), (.closing, ")")] (.value "item" none)).Follows R :=
      ⟨by decide, hR.settings (by decide), hR.value _ (by decide)⟩
    exact (Template.follows_text hcolumn).append hloop
  · obtain ⟨keys, hkeys, rfl⟩ := map_eq_ok.mp hmatch
    obtain ⟨slots, hslots, rfl⟩ := map_eq_ok.mp hkeys
    refine ⟨by decide, hR.settings (by decide),
      Template.follows_join (hR.word (by decide)) fun part hpart => ?_⟩
    obtain ⟨slot, hslot, rfl⟩ := List.mem_map.mp hpart
    have hmem := (List.mem_filter.mp hslot).1
    have hvalue : R.Admits .path ("item." ++ slot.member) := by
      rw [Rule.admits_append]
      exact ⟨hR.word (by decide), (hg.slot hR hslots hmem).2.1 _⟩
    exact (column_follows hR hg hslots hmem (by decide)).append
      (Template.follows_value hvalue none)

/-- A guarded match of keys follows the rule. -/
theorem guardedKeysMatch_follows (hmatch : g.guardedKeysMatch = .ok t) : t.Follows R := by
  unfold guardedKeysMatch at hmatch
  split at hmatch
  · cases hmatch
    trivial
  · obtain ⟨keys, hkeys, rfl⟩ := map_eq_ok.mp hmatch
    apply whenPresent_follows (hR.parameter .ids)
    exact (hR.text _ (by decide)).append (keysMatch_follows hR hg hkeys)

/-! ### Conditions -/

/-- The condition block of the entity. -/
theorem block_follows (hblock : conditionBlock g.entity g.dialect = .ok t) : t.Follows R := by
  refine conditionBlock_follows hR (fun pc hpc => hg.compared hR hpc) ?_ hblock
  exact fun pc hpc operand hoperand => ⟨hg.operand hpc hoperand _, hg.operand hpc hoperand _⟩

/-! ### Result maps -/

/-- The result map follows the rule. -/
theorem resultMapStatement_follows (hs : g.resultMapStatement = .ok s) : s.Follows R := by
  obtain ⟨embedded, hembedded, hs⟩ := bind_eq_ok.mp hs
  cases hs
  obtain rfl := associations_eq_associationsIn hembedded
  have hresults : ∀ t ∈ results g.entity.properties, t.Follows R := by
    intro t ht
    obtain ⟨p, hp, rfl⟩ := List.mem_map.mp ht
    have hp := (List.mem_filter.mp hp).1
    exact resultOf_follows (hg.name hp _) (hg.column hp (by decide))
  have hassociations : ∀ t ∈ associationsIn g.catalog g.entity.properties, t.Follows R := by
    intro t ht
    obtain ⟨p, hp, ht⟩ := List.mem_flatMap.mp ht
    obtain ⟨hp, hpEmbedded⟩ := List.mem_filter.mp hp
    obtain ⟨e, he, rfl⟩ := List.mem_map.mp ht
    have hfound : g.catalog.get? p.typeName = some e := Option.mem_toList.mp he
    refine associationOf_follows (hg.name hp _) fun member hmember => ?_
    obtain ⟨hname, hcolumn⟩ := hg.member hp hpEmbedded hfound hmember
    exact ⟨hname _, hcolumn _ (by decide)⟩
  refine { statement_follows hR .resultMap .resultMap (g := g)
    ((Template.follows_concat hresults).append (Template.follows_concat hassociations)) with
    resultType := fun typeName htype => ?_ }
  cases htype
  exact hg.typeName

/-- The list of columns is admitted. -/
theorem columnList_admits (hslots : g.slots = .ok slots) :
    R.Admits .text (g.columnList slots) := by
  refine Rule.admits_intercalate (hR.word (by decide)) fun text htext => ?_
  obtain ⟨slot, hslot, rfl⟩ := List.mem_map.mp htext
  exact (hg.slot hR hslots hslot).2.2.1

/-- The fragment of the columns follows the rule. -/
theorem baseColumnListStatement_follows (hs : g.baseColumnListStatement = .ok s) :
    s.Follows R := by
  obtain ⟨slots, hslots, hs⟩ := bind_eq_ok.mp hs
  cases hs
  exact statement_follows hR _ _ (columnList_admits hR hg hslots)

/-! ### Insertions -/

/-- The element that obtains a generated key, and where the key goes. -/
theorem insertKey_follows {key? : Option KeyInfo} (hkey : g.insertKey = .ok (t, key?)) :
    t.Follows R ∧ ∀ key ∈ key?, R.Admits .escaped key.property ∧ R.Admits .escaped key.column := by
  unfold insertKey at hkey
  split at hkey
  · next p hcomposite hp =>
    have hsimple := Entity.key_of_keyProperty? hcomposite hp
    have hmem := Entity.mem_of_key_simple hsimple
    have hname := hg.name hmem
    have hcolumn : ∀ {site : Site}, site ≠ .path → R.Admits site p.column.name.text :=
      fun hsite => hg.column hmem hsite
    split at hkey
    · cases hkey
      refine ⟨trivial, fun key hkey => ?_⟩
      cases hkey
      exact ⟨hname _, hcolumn (by decide)⟩
    · next generation hgenerated =>
      obtain ⟨⟨select, timing⟩, hselect, heq⟩ := map_eq_ok.mp hkey
      obtain ⟨⟨sql, found⟩, hsql, _⟩ := map_eq_ok.mp hselect
      cases heq
      refine ⟨keySelect_follows (hname _) (hcolumn (by decide)) (hg.propertyType hmem) hsql
        (hg.keySql hR hsimple hgenerated hsql) hselect, fun key hkey => ?_⟩
      cases hkey
      exact ⟨hname _, hcolumn (by decide)⟩
  · cases hkey
    exact ⟨trivial, forall_mem_none⟩

omit hg in
/-- A list with commas follows the rule if its items do. -/
theorem commaList_follows {front : String} {items : List Template}
    (hfront : front.toList.all Site.attribute.standard = true)
    (hitems : ∀ item ∈ items, item.Follows R) : (commaList front items).Follows R := by
  refine ⟨by simp +decide, fun setting hsetting => ?_, Template.follows_concat hitems⟩
  simp only [List.mem_cons, List.not_mem_nil, or_false] at hsetting
  rcases hsetting with rfl | rfl | rfl
  · exact hR.word hfront
  · exact hR.word (by decide)
  · exact hR.word (by decide)

/-- The insertion of all columns follows the rule. -/
theorem insertAll_follows (hslots : g.slots = .ok slots) : (g.insertAll slots).Follows R := by
  have hfront : R.Admits .text
      ("insert into " ++ g.table ++ " (" ++ g.columnList slots ++ ") values (") := by
    have hwords : R.Admits .text "insert into " ∧ R.Admits .text " (" ∧
        R.Admits .text ") values (" :=
      ⟨hR.word (by decide), hR.word (by decide), hR.word (by decide)⟩
    simp [hg.table hR, columnList_admits hR hg hslots, hwords]
  have hvalues : (Template.join "," (slots.map fun slot =>
      typedValue slot.path slot.column)).Follows R := by
    refine Template.follows_join (hR.word (by decide)) fun t ht => ?_
    obtain ⟨slot, hslot, rfl⟩ := List.mem_map.mp ht
    exact Template.follows_value ((hg.slot hR hslots hslot).1 _) _
  exact ((Template.follows_text hfront).append hvalues).append
    (hR.text _ (by decide))

/-- The insertion of the values that are present follows the rule. -/
theorem insertPresent_follows (hslots : g.slots = .ok slots) :
    (g.insertPresent slots).Follows R := by
  have hfront : (Template.text ("insert into " ++ g.table ++ " ")).Follows R :=
    aroundTable_follows hR hg (by decide) (by decide)
  have hcolumns : (commaList "(" (slots.map fun slot =>
      whenPresent slot.path (.text (g.column slot ++ ",")))).Follows R := by
    refine commaList_follows hR (by decide) fun item hitem => ?_
    obtain ⟨slot, hslot, rfl⟩ := List.mem_map.mp hitem
    exact whenPresent_follows ((hg.slot hR hslots hslot).1 _)
      (column_follows hR hg hslots hslot (by decide))
  have hvalues : (commaList "values(" (slots.map fun slot =>
      whenPresent slot.path (typedValue slot.path slot.column ++ .text ","))).Follows R := by
    refine commaList_follows hR (by decide) fun item hitem => ?_
    obtain ⟨slot, hslot, rfl⟩ := List.mem_map.mp hitem
    have hpath := (hg.slot hR hslots hslot).1
    exact whenPresent_follows (hpath _)
      ((Template.follows_value (hpath _) _).append (hR.text _ (by decide)))
  exact ((hfront.append hcolumns).append
    (hR.text _ (by decide))).append hvalues

/-- Both insertions follow the rule. -/
theorem insertStatement_follows {selective : Bool} (hs : g.insertStatement selective = .ok s) :
    s.Follows R := by
  obtain ⟨⟨select, key?⟩, hselect, hs⟩ := bind_eq_ok.mp hs
  obtain ⟨slots, hslots, hs⟩ := bind_eq_ok.mp hs
  cases hs
  obtain ⟨hselect, hkey⟩ := insertKey_follows hR hg hselect
  have hbody : (select ++
      if selective then g.insertPresent slots else g.insertAll slots).Follows R := by
    cases selective with
    | true => exact hselect.append (insertPresent_follows hR hg hslots)
    | false => exact hselect.append (insertAll_follows hR hg hslots)
  refine { statement_follows hR .insert _ (g := g) hbody with
    parameterType := fun typeName htype => ?_, key := hkey }
  cases htype
  exact hg.typeName

/-! ### Updates and deletions -/

/-- Assignments follow the rule. -/
theorem assignments_follow {selective : Bool} {changed : List Slot} (hslots : g.slots = .ok slots)
    (hchanged : changed ⊆ slots) : (g.assignments selective changed).Follows R := by
  have hpath : ∀ slot ∈ changed, ∀ site, R.Admits site (Parameter.entity.member slot.path) :=
    fun slot hslot site =>
      hR.parameterMember .entity ((hg.slot hR hslots (hchanged hslot)).1 site)
  have hassignment : ∀ slot ∈ changed, (g.assignment slot).Follows R := fun slot hslot =>
    (column_follows hR hg hslots (hchanged hslot) (by decide)).append
      (Template.follows_value (hpath slot hslot _) _)
  cases selective with
  | true =>
    refine Template.follows_concat fun t ht => ?_
    obtain ⟨slot, hslot, rfl⟩ := List.mem_map.mp ht
    exact whenPresent_follows (hpath slot hslot _)
      ((hassignment slot hslot).append (hR.text _ (by decide)))
  | false =>
    refine Template.follows_join (hR.word (by decide)) fun t ht => ?_
    obtain ⟨slot, hslot, rfl⟩ := List.mem_map.mp ht
    exact hassignment slot hslot

/-- All updates follow the rule. -/
theorem updateStatement_follows {selective byId : Bool}
    (hs : g.updateStatement selective byId = .ok s) : s.Follows R := by
  obtain ⟨condition, hcondition, hs⟩ := bind_eq_ok.mp hs
  obtain ⟨slots, hslots, hs⟩ := bind_eq_ok.mp hs
  cases hs
  have hfront : (Template.text ("update " ++ g.table ++ " ")).Follows R :=
    aroundTable_follows hR hg (by decide) (by decide)
  have hassignments : (Template.setClause (g.assignments selective
      (slots.filter fun slot => !slot.isKey))).Follows R :=
    assignments_follow hR hg hslots (List.filter_subset_self _)
  exact statement_follows hR _ _ (((hfront.append hassignments).append
    (hR.text _ (by decide))).append (keyMatch_follows hR hg hcondition))

/-- The deletion by key follows the rule. -/
theorem deleteByIdStatement_follows (hs : g.deleteByIdStatement = .ok s) : s.Follows R := by
  obtain ⟨condition, hcondition, hs⟩ := bind_eq_ok.mp hs
  cases hs
  have hfront : (Template.text ("delete from " ++ g.table ++ " where ")).Follows R :=
    aroundTable_follows hR hg (by decide) (by decide)
  exact { statement_follows hR .delete .deleteById (g := g)
    (hfront.append (keyMatch_follows hR hg hcondition)) with
    parameterType := fun typeName => hg.keyType }

/-- The deletion by keys follows the rule. -/
theorem deleteByIdsStatement_follows (hs : g.deleteByIdsStatement = .ok s) : s.Follows R := by
  obtain ⟨condition, hcondition, hs⟩ := bind_eq_ok.mp hs
  cases hs
  have hfront : (Template.text ("delete from " ++ g.table ++ " where ")).Follows R :=
    aroundTable_follows hR hg (by decide) (by decide)
  exact statement_follows hR _ _ (hfront.append (keysMatch_follows hR hg hcondition))

/-- The deletion of all rows follows the rule. -/
theorem deleteAllStatement_follows : g.deleteAllStatement.Follows R :=
  statement_follows hR _ _ (afterTable_follows hR hg (by decide))

/-! ### Reading -/

omit hg in
/-- The id of the result map is admitted. -/
theorem resultMap_admits : ∀ id ∈ some StatementName.resultMap.id, R.Admits .escaped id := by
  intro id hid
  cases hid
  exact hR.statementId .resultMap

omit hg in
/-- The type of a count is admitted. -/
theorem countType_admits : ∀ typeName ∈ some countType, R.Admits .escaped typeName := by
  intro typeName htype
  cases htype
  exact hR.word (by decide)

/-- Looking up a row follows the rule. -/
theorem getByIdStatement_follows (hs : g.getByIdStatement = .ok s) : s.Follows R := by
  obtain ⟨condition, hcondition, hs⟩ := bind_eq_ok.mp hs
  cases hs
  have hfront : (Template.text ("select * from " ++ g.table ++ " where ")).Follows R :=
    aroundTable_follows hR hg (by decide) (by decide)
  exact { statement_follows hR .select .getById (g := g)
    (hfront.append (keyMatch_follows hR hg hcondition)) with
    parameterType := fun typeName => hg.keyType
    resultMap := resultMap_admits hR }

/-- The count follows the rule. -/
theorem countStatement_follows (hs : g.countStatement = .ok s) : s.Follows R := by
  obtain ⟨conditions, hconditions, hs⟩ := bind_eq_ok.mp hs
  cases hs
  have hfront : (Template.text ("select count(*) from " ++ g.table ++ " ")).Follows R :=
    aroundTable_follows hR hg (by decide) (by decide)
  have hblock := block_follows hR hg hconditions
  have hclause : (Template.whereClause conditions).Follows R := hblock
  exact { statement_follows hR .select .count (g := g) (hfront.append hclause) with
    resultType := countType_admits hR }

/-- The count of all rows follows the rule. -/
theorem countAllStatement_follows : g.countAllStatement.Follows R :=
  { statement_follows hR .select .countAll (g := g)
      (afterTable_follows hR hg (by decide)) with
    resultType := countType_admits hR }

/-! ### Searches -/

/-- The ordering splices in columns and directions. -/
theorem orderBy_follows (hsplices : R.splices) (horder : g.orderBy = .ok t) : t.Follows R := by
  obtain ⟨slots, hslots, horder⟩ := bind_eq_ok.mp horder
  cases horder
  have hguard : ∀ {sql : String}, R.Admits .text sql →
      (Template.guard (.holds "item.ignoreCase") (.text sql)).Follows R := by
    exact fun hsql => ⟨hR.holds _ (by decide), hsql⟩
  have hcolumns : (Template.bind columnsName
      (.columns (slots.map fun s => (s.path, g.column s)))).Follows R := by
    refine ⟨hR.word (by decide), fun entry hentry => ?_⟩
    obtain ⟨slot, hslot, rfl⟩ := List.mem_map.mp hentry
    obtain ⟨hpath, _, _, hcolumn⟩ := hg.slot hR hslots hslot
    exact ⟨hpath _, hcolumn⟩
  have hround := (((hguard (lowercase_admits hR g.dialect)).append
    (hR.splice hsplices (columnsName ++ "[item.property]") (by decide))).append
      (hguard (hR.word (a := ")") (by decide)))).append (hR.text " " (by decide))
  have hbody := hround.append (hR.splice hsplices "item.direction" (by decide))
  exact whenPresent_follows (hR.parameter .sort)
    ((hcolumns.append (hR.text _ (by decide))).append
      ⟨by decide, hR.settings (by decide), hbody⟩)

/-- A search follows a rule that allows splicing. -/
theorem findQuery_follows (hsplices : R.splices) (hquery : g.findQuery = .ok t) :
    t.Follows R := by
  obtain ⟨keys, hkeys, hquery⟩ := bind_eq_ok.mp hquery
  obtain ⟨conditions, hconditions, hquery⟩ := bind_eq_ok.mp hquery
  obtain ⟨order, horder, hquery⟩ := bind_eq_ok.mp hquery
  cases hquery
  have hselect : (Template.text ("select * from " ++ g.table ++ " ")).Follows R :=
    aroundTable_follows hR hg (by decide) (by decide)
  have hfilters : (Template.whereClause (keys ++ conditions)).Follows R :=
    (guardedKeysMatch_follows hR hg hkeys).append (block_follows hR hg hconditions)
  exact ((hselect.append hfilters).append (hR.text _ (by decide))).append
    (orderBy_follows hR hg hsplices horder)

/-- Both searches follow a rule that allows splicing. -/
theorem findStatement_follows (hsplices : R.splices) {paged : Bool}
    (hs : g.findStatement paged = .ok s) : s.Follows R := by
  obtain ⟨query, hquery, hs⟩ := bind_eq_ok.mp hs
  cases hs
  have hfollows := findQuery_follows hR hg hsplices hquery
  have hbody : (if paged then g.dialect.window query else query).Follows R := by
    cases paged with
    | true => exact g.dialect.window_follows hR hfollows
    | false => exact hfollows
  exact { statement_follows hR .select _ (g := g) hbody with resultMap := resultMap_admits hR }

/-! ### Example queries -/

omit hg in
/-- The condition of example queries splices in the conditions of criteria. -/
theorem exampleWhere_follows (hsplices : R.splices) : exampleWhere.Follows R := by
  have hcondition : criterionCondition.Follows R :=
    (hR.text _ (by decide)).append (hR.splice hsplices _ (by decide))
  have hnone : (Template.branch (.holds "criterion.noValue") criterionCondition).Follows R :=
    ⟨hR.holds _ (by decide), hcondition⟩
  have hsingle : (Template.branch (.holds "criterion.singleValue")
      (criterionCondition ++ .text " " ++ .value "criterion.value" none)).Follows R :=
    ⟨hR.holds _ (by decide),
      (hcondition.append (hR.text _ (by decide))).append (hR.value _ (by decide))⟩
  have hbetween : (Template.branch (.holds "criterion.betweenValue")
      (criterionCondition ++ .text " " ++ .value "criterion.value" none ++ .text " and " ++
        .value "criterion.secondValue" none)).Follows R :=
    ⟨hR.holds _ (by decide), (((hcondition.append (hR.text _ (by decide))).append
      (hR.value _ (by decide))).append (hR.text _ (by decide))).append (hR.value _ (by decide))⟩
  have hlist : (Template.branch (.holds "criterion.listValue")
      (criterionCondition ++
        .loop
          [(.closing, ")"), (.collection, "criterion.value"), (.item, "listItem"),
            (.opening, "("), (.separator, ",")]
          (.value "listItem" none))).Follows R :=
    ⟨hR.holds _ (by decide), hcondition.append
      ⟨by decide, hR.settings (by decide), hR.value _ (by decide)⟩⟩
  have hbranches : criterionBranches.Follows R :=
    ((hnone.append hsingle).append hbetween).append hlist
  have hgroup : criteriaGroup.Follows R :=
    ⟨by decide, hR.settings (by decide), by decide, hR.settings (by decide), hbranches⟩
  exact ⟨by decide, hR.settings (by decide), hR.holds _ (by decide), hgroup⟩

/-- The search by example follows a rule that allows splicing. -/
theorem findByExampleStatement_follows (hsplices : R.splices) {companion : String}
    (hcompanion : R.Admits .escaped companion) :
    (g.findByExampleStatement companion).Follows R := by
  have hfragment : ∀ name : StatementName, (Template.fragment name.id).Follows R :=
    fun name => Template.follows_fragment (hR.statementId name)
  have hdistinct : (Template.guard (.holds "distinct") (.text "distinct")).Follows R :=
    ⟨hR.holds _ (by decide), hR.text _ (by decide)⟩
  have hselect := (((hR.text "select " (by decide)).append hdistinct).append
    (hR.text " " (by decide))).append (hfragment .baseColumnList)
  have hfrom : (Template.text (" from " ++ g.table ++ " ")).Follows R :=
    aroundTable_follows hR hg (by decide) (by decide)
  have hparameter : R.Admits .path "_parameter" := hR.word (by decide)
  have hwhere := whenPresent_follows hparameter (hfragment .exampleWhereClause)
  have hclause : R.Admits .path "orderByClause" := hR.word (by decide)
  have horder := whenPresent_follows hclause
    (((hR.text " order by " (by decide)).append
      (hR.splice hsplices "orderByClause" (by decide))).append (hR.text " " (by decide)))
  refine { statement_follows hR .select .findByExample (g := g)
    (((hselect.append hfrom).append hwhere).append horder) with
    parameterType := fun typeName htype => ?_
    resultMap := resultMap_admits hR }
  cases htype
  exact hcompanion

/-! ### All statements -/

/-- Every statement follows a rule that admits the fixed words and the texts of the metadata,
if the rule lets values be spliced in where the statement does so. -/
theorem make_follows {companion : String} {name : StatementName}
    (hsplices : name.splices → R.splices)
    (hcompanion : name = .findByExample → R.Admits .escaped companion)
    (hs : g.make companion name = .ok s) : s.Follows R := by
  cases name with
  | resultMap => exact resultMapStatement_follows hR hg hs
  | baseColumnList => exact baseColumnListStatement_follows hR hg hs
  | insertSelective => exact insertStatement_follows hR hg hs
  | insert => exact insertStatement_follows hR hg hs
  | updateSelectiveById => exact updateStatement_follows hR hg hs
  | updateSelective => exact updateStatement_follows hR hg hs
  | updateById => exact updateStatement_follows hR hg hs
  | update => exact updateStatement_follows hR hg hs
  | deleteById => exact deleteByIdStatement_follows hR hg hs
  | deleteByIds => exact deleteByIdsStatement_follows hR hg hs
  | deleteAll =>
    cases hs
    exact deleteAllStatement_follows hR hg
  | getById => exact getByIdStatement_follows hR hg hs
  | findByPager => exact findStatement_follows hR hg (hsplices (.inr (.inl rfl))) hs
  | find => exact findStatement_follows hR hg (hsplices (.inl rfl)) hs
  | countAll =>
    cases hs
    exact countAllStatement_follows hR hg
  | count => exact countStatement_follows hR hg hs
  | exampleWhereClause =>
    cases hs
    exact statement_follows hR _ _
      (exampleWhere_follows hR (hsplices (.inr (.inr (by decide)))))
  | findByExample =>
    cases hs
    exact findByExampleStatement_follows hR hg (hsplices (.inr (.inr (by decide))))
      (hcompanion rfl)

end

end Generator

end EntityMapping
