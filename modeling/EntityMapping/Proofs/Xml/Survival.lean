import EntityMapping.Proofs.Xml.Document
import EntityMapping.Proofs.Xml.Exactness

/-!
# Names and overrides that survive printing

The result map, the element that obtains a key and the condition block print the names of
properties and columns, and the columns that conditions compare, without escaping them.  They
are read back as they were meant exactly if none of these texts has a character that means
something else where it stands: an opening angle bracket or an ampersand, or in an attribute a
double quote.

Main results:

- `Template.Exact.readsBack_iff`: a template whose texts cannot hide is read back just if they
  fit.
- `Generator.readsBack_resultMap_iff`, `Generation.readsBack_keySelect_iff`,
  `Generation.readsBack_conditionBlock_iff`: which texts survive in the three fragments.
- `Generator.names_survive_iff`: all of it for one entity.
-/

namespace EntityMapping

namespace Xml

/-- The text is one element with balanced content, and it is read as these events. -/
def ReadsBack (text : String) (events : List Event) : Prop :=
  read? text = some events ∧ IsDocument events

/-- The content of an element is part of its events. -/
theorem infix_node (name : String) (attributes : List (String × String)) (content : List Event) :
    content <:+: node name attributes content :=
  ⟨[.opened name attributes], [.closed name], rfl⟩

/-- What is read is begun with. -/
theorem begins_of_read? {text : String} {events : List Event} (h : read? text = some events) :
    Begins .content (text.toList ++ []) (events ++ []) := by
  unfold read? at h
  split at h
  · next found hscan =>
    cases h
    exact ⟨.content, [], by simpa using hscan⟩
  · cases h

end Xml

open Xml (Begins ReadsBack)

/-! ## Templates whose texts cannot hide -/

/-- Reading begins with the events of the template only if its texts fit. -/
def Template.Exact (t : Template) : Prop :=
  ∀ rest more, Begins .content (t.print.toList ++ rest) (t.events ++ more) → t.Follows Rule.xml

namespace Template

variable {first second body t : Template}

/-- The events of parts follow each other. -/
theorem events_append (first second : Template) :
    (first ++ second).events = first.events ++ second.events := rfl

/-- The events of a sequence follow each other. -/
theorem events_concat (ts : List Template) : (concat ts).events = ts.flatMap events := by
  induction ts with
  | nil => rfl
  | cons t rest ih => rw [concat, events_append, ih, List.flatMap_cons]

/-- What follows the rule of markup is exact. -/
theorem exact_of_follows (h : t.Follows Rule.xml) : t.Exact := fun _ _ _ => h

/-- Exact parts are exact in sequence. -/
theorem Exact.append (hfirst : first.Exact) (hsecond : second.Exact) :
    (first ++ second).Exact := by
  intro rest more h
  have hboth : Begins .content (first.print.toList ++ (second.print.toList ++ rest))
      (first.events ++ (second.events ++ more)) := by
    rw [print_append, String.toList_append, List.append_assoc] at h
    rw [← List.append_assoc first.events]
    exact h
  have hfollows := hfirst _ _ hboth
  exact hfollows.append (hsecond _ _ (hboth.after hfollows.reads_print))

/-- A sequence of exact templates is exact. -/
theorem exact_concat {ts : List Template} (h : ∀ t ∈ ts, t.Exact) : (concat ts).Exact := by
  induction ts with
  | nil => exact exact_of_follows trivial
  | cons t rest ih =>
    exact (h t List.mem_cons_self).append
      (ih fun other hother => h other (List.mem_cons_of_mem t hother))

/-- A text before a blank. -/
theorem exact_line (sql : String) : (text sql ++ text " ").Exact := by
  intro rest more h
  rw [print_append, String.toList_append, List.append_assoc] at h
  have hevents : (text sql ++ text " ").events ++ more =
      sql.toList.map .char ++ .char ' ' :: more :=
    List.append_assoc _ [.char ' '] more
  rw [hevents] at h
  have hsql := Xml.text_exact (by decide : Xml.isMark ' ' = true)
    (fun s word hs hword => Xml.not_begins_at_mark (by decide) hs hword) h
  exact (follows_text (Rule.xml_text_iff.mpr hsql)).append (follows_text (by decide))

/-- The paths of a test fit if the test does. -/
theorem paths_fit {test : Test} (h : Rule.xml.Admits .attribute test.print) :
    ∀ path ∈ test.paths, Rule.xml.Admits .path path := by
  intro text htext
  cases test with
  | holds path => exact List.mem_singleton.mp htext ▸ Rule.xml_path_iff.mpr h
  | notNull paths =>
    have hword := Rule.admits_of_intercalate h _ (List.mem_map_of_mem htext)
    exact Rule.xml_path_iff.mpr (Rule.admits_append.mp hword).1

/-- The body of a guard is read where the paths of its test fit. -/
theorem exact_guard {test : Test} (hsome : test.paths ≠ [])
    (hbody : (∀ path ∈ test.paths, Rule.xml.Admits .path path) → body.Exact) :
    (guard test body).Exact := by
  intro rest more h
  rw [guard_eq_elementText] at h
  obtain ⟨htest, rest', hinner⟩ := Xml.elementText_exact [("test", test.print)] []
    (by decide) (by simp +decide) (by simp) (by simp) h
  have hpaths := paths_fit (htest _ List.mem_cons_self)
  exact ⟨⟨hsome, hpaths⟩, hbody hpaths _ _ hinner⟩

/-- An association is exact if its body is. -/
theorem Exact.association (property : String) (hbody : body.Exact) :
    (association property body).Exact := by
  intro rest more h
  rw [association_eq_elementText] at h
  obtain ⟨hproperty, rest', hinner⟩ := Xml.elementText_exact [("property", property)] []
    (by decide) (by simp +decide) (by simp) (by simp) h
  exact ⟨hproperty _ List.mem_cons_self, hbody _ _ hinner⟩

/-- An entry of a result map is exact. -/
theorem exact_result (isKey : Bool) (property column : String) (type : JdbcType) :
    (result isKey property column type).Exact := by
  intro rest more h
  rw [result_eq_startText, String.toList_append, List.append_assoc] at h
  let attributes := [("property", property), ("column", column), ("jdbcType", type.name)]
  have hfit := Xml.startText_exact attributes [] []
    (by cases isKey <;> decide : Xml.IsName (if isKey then "id" else "result"))
    (by simp +decide [attributes]) (by simp [attributes]) h
  exact ⟨hfit _ List.mem_cons_self, hfit _ (List.mem_cons_of_mem _ List.mem_cons_self)⟩

/-- The SQL of the element that obtains a key stands before its end tag. -/
theorem exact_selectKey (property column typeName sql : String) (timing : KeyTiming) :
    (selectKey property column timing typeName (text sql)).Exact := by
  intro rest more h
  rw [selectKey_eq_elementText] at h
  let attributes := [("keyProperty", property), ("keyColumn", column), ("order", timing.name)]
  have htype := Xml.RawAttribute.readable_escaped (by decide : Xml.IsName "resultType") typeName
  obtain ⟨hfit, rest', hinner⟩ := Xml.elementText_exact attributes
    [.escaped "resultType" typeName] (by decide) (by simp +decide [attributes])
    (by simpa using htype) (by simp [attributes]) h
  have hsql := Xml.text_exact (by decide : Xml.isMark '/' = true)
    (fun s word hs hword => Xml.not_begins_at_closing hs hword) hinner
  exact ⟨hfit _ List.mem_cons_self, hfit _ (List.mem_cons_of_mem _ List.mem_cons_self),
    Rule.xml_escaped typeName, Rule.xml_text_iff.mpr hsql⟩

/-- A template whose texts cannot hide is read back just if they fit. -/
theorem Exact.readsBack_iff (ht : t.Exact) :
    Xml.read? t.print = some t.events ↔ t.Follows Rule.xml := by
  constructor
  · exact fun h => ht _ _ (Xml.begins_of_read? h)
  · exact fun h => h.read?_events

end Template

/-! ## Statements -/

/-- A statement with an exact body is read back just if the texts of the body fit. -/
theorem Statement.readsBack_iff {s : Statement} (hbody : s.body.Exact) :
    ReadsBack s.render s.events ↔ s.body.Follows Rule.xml := by
  constructor
  · rintro ⟨h, _⟩
    have hbegins := Xml.begins_of_read? h
    rw [render_eq_elementText, events, ← pair_rawAttributes] at hbegins
    obtain ⟨_, rest', hinner⟩ := Xml.elementText_exact [] s.rawAttributes (isName_element s.kind)
      (by simp) s.readable_rawAttributes (by simpa using s.nodup_rawAttributes) hbegins
    exact hbody _ _ hinner
  · intro h
    exact ⟨Xml.read?_of_reads (reads_render_of_body h.reads_print), _, _, _, rfl,
      s.body.balanced_events⟩

/-! ## Conditions -/

namespace Generation

open Template

variable {e : Entity} {p : Property} {c : Condition} {index : Nat} {d : Dialect} {t : Template}

/-- The texts of a condition fit where they stand: its operands in the test and in attributes,
and what it compares in the SQL. -/
def ConditionFits (d : Dialect) (p : Property) (c : Condition) : Prop :=
  (∀ operand ∈ operands p c, Rule.xml.Admits .attribute operand) ∧
    Rule.xml.Admits .text (comparedColumn p c d)

/-- Operands that fit in attributes fit as paths. -/
theorem operands_fit_path (h : ∀ operand ∈ operands p c, Rule.xml.Admits .attribute operand) :
    ∀ operand ∈ operands p c,
      Rule.xml.Admits .path operand ∧ Rule.xml.Admits .attribute operand :=
  fun operand hoperand => ⟨Rule.xml_path_iff.mpr (h operand hoperand), h operand hoperand⟩

/-- The left side stands before a blank. -/
theorem exact_leftSide (column : String) (rule : CaseRule) (lowercase : String) :
    (leftSide column rule lowercase ++ .text " ").Exact := by
  rw [leftSide_eq_text]
  exact exact_line _

/-- The left side of a comparison follows the rule only if its column does. -/
theorem column_of_leftSide {column : String} {rule : CaseRule} {lowercase : String}
    (h : (leftSide column rule lowercase).Follows Rule.xml) : Rule.xml.Admits .text column := by
  unfold leftSide at h
  split at h
  · exact (Rule.admits_append.mp (Rule.admits_append.mp h).1).2
  · exact h

/-- A predicate is read where its operands fit. -/
theorem exact_predicate (hoperands : ∀ operand ∈ operands p c, Rule.xml.Admits .attribute operand) :
    (predicate p c index d).Exact := by
  have hoperator := exact_of_follows (operatorSegment_follows Rule.xml_isLenient c.comparison)
  have hcomparison := (exact_leftSide (comparedColumn p c d) c.caseRule d.lowercase).append
    hoperator
  unfold predicate
  split
  · next right hright =>
    have hblank : (Template.text " ").Exact := exact_of_follows (follows_text (by decide))
    have hfollows := rightSide_follows Rule.xml_isLenient (operands_fit_path hoperands) hright
    exact (hcomparison.append hblank).append (exact_of_follows hfollows)
  · exact hcomparison

/-- The operands of a condition fit in attributes if the paths of its test do. -/
theorem operands_fit (h : ∀ path ∈ (operandTest p c).paths, Rule.xml.Admits .path path) :
    ∀ operand ∈ operands p c, Rule.xml.Admits .attribute operand := by
  intro operand hoperand
  have hmember := Rule.xml_path_iff.mp (h _ (List.mem_map_of_mem hoperand))
  exact (Rule.admits_append.mp hmember).2

/-- The item of a condition is exact. -/
theorem exact_conditionItem (h : conditionItem e p c index d = .ok t) : t.Exact := by
  obtain ⟨_, _, h⟩ := bind_eq_ok.mp h
  cases h
  refine exact_guard (operandTest_paths_ne_nil p c) fun hpaths => ?_
  have hand : (Template.text " and ").Exact := exact_of_follows (follows_text (by decide))
  exact hand.append (exact_predicate (operands_fit hpaths))

/-- A guarded predicate fits just if its condition does. -/
theorem conditionItem_follows_iff (h : conditionItem e p c index d = .ok t) :
    t.Follows Rule.xml ↔ ConditionFits d p c := by
  constructor
  · intro hfollows
    obtain ⟨_, _, h⟩ := bind_eq_ok.mp h
    cases h
    obtain ⟨hpaths, _, hpredicate⟩ := hfollows
    refine ⟨operands_fit hpaths.2, ?_⟩
    unfold predicate at hpredicate
    split at hpredicate
    · exact column_of_leftSide hpredicate.1.1.1.1
    · exact column_of_leftSide hpredicate.1.1
  · rintro ⟨hoperands, hcolumn⟩
    exact conditionItem_follows Rule.xml_isLenient hcolumn (operands_fit_path hoperands) h

/-- The compared text is among the characters of a guarded predicate. -/
theorem column_infix_conditionItem (h : conditionItem e p c index d = .ok t) :
    Xml.chars (comparedColumn p c d) <:+: t.events := by
  obtain ⟨_, _, h⟩ := bind_eq_ok.mp h
  cases h
  let left := leftSide (comparedColumn p c d) c.caseRule d.lowercase
  have hleft : Xml.chars (comparedColumn p c d) <:+: left.events := by
    simp only [left, leftSide]
    split
    · refine ⟨Xml.chars (d.lowercase ++ "("), Xml.chars ")", ?_⟩
      simp [events, Xml.chars]
    · exact List.infix_rfl
  have hcomparison : left.events <:+:
      (left ++ .text " " ++ operatorSegment c.comparison).events := by
    simp only [events_append, List.append_assoc]
    exact (List.prefix_append _ _).isInfix
  have hpredicate : left.events <:+: (predicate p c index d).events := by
    unfold predicate
    split
    · simp only [events_append, List.append_assoc]
      exact (List.prefix_append _ _).isInfix
    · exact hcomparison
  have hguard : (predicate p c index d).events <:+: (Template.guard (operandTest p c)
      (.text " and " ++ predicate p c index d)).events := by
    refine (List.suffix_append (Xml.chars " and ") _).isInfix.trans ?_
    exact Xml.infix_node _ _ _
  exact (hleft.trans hpredicate).trans hguard

/-- Each text that a condition compares is among the characters of the condition block. -/
theorem column_infix_conditionBlock (h : conditionBlock e d = .ok t) :
    ∀ pc ∈ conditionsOf e, Xml.chars (comparedColumn pc.1 pc.2 d) <:+: t.events := by
  obtain ⟨items, hitems, h⟩ := bind_eq_ok.mp h
  cases h
  intro pc hpc
  obtain ⟨item, hitem, _, hfound⟩ := (conditionItems_mem hitems).2 pc hpc
  have hconcat : item.events <:+: (concat items).events := by
    rw [events_concat, List.flatMap_def]
    exact List.infix_of_mem_flatten (List.mem_map_of_mem hitem)
  exact ((column_infix_conditionItem hfound).trans hconcat).trans (Xml.infix_node _ _ _)

/-- The condition block is read back just if all its conditions fit. -/
theorem readsBack_conditionBlock_iff (h : conditionBlock e d = .ok t) :
    ReadsBack t.print t.events ↔ ∀ pc ∈ conditionsOf e, ConditionFits d pc.1 pc.2 := by
  obtain ⟨items, hitems, h⟩ := bind_eq_ok.mp h
  cases h
  obtain ⟨hmade, hmake⟩ := conditionItems_mem hitems
  have hexact : (Template.guard (.notNull [Parameter.condition.name]) (.concat items)).Exact :=
    exact_guard (List.cons_ne_nil _ _) fun _ => exact_concat fun item hitem => by
      obtain ⟨_, _, _, hitem⟩ := hmade item hitem
      exact exact_conditionItem hitem
  have htest : (Test.notNull [Parameter.condition.name]).Follows Rule.xml :=
    ⟨List.cons_ne_nil _ _, by decide⟩
  have hfollows : (Template.guard (.notNull [Parameter.condition.name]) (.concat items)).Follows
      Rule.xml ↔ ∀ item ∈ items, item.Follows Rule.xml :=
    (and_iff_right htest).trans follows_concat_iff
  have hdocument : Xml.IsDocument
      (Template.guard (.notNull [Parameter.condition.name]) (.concat items)).events :=
    ⟨_, _, _, rfl, Template.balanced_events _⟩
  rw [ReadsBack, and_iff_left hdocument, hexact.readsBack_iff, hfollows]
  constructor
  · intro h pc hpc
    obtain ⟨item, hitem, _, hfound⟩ := hmake pc hpc
    exact (conditionItem_follows_iff hfound).mp (h item hitem)
  · intro h item hitem
    obtain ⟨pc, hpc, _, hfound⟩ := hmade item hitem
    exact (conditionItem_follows_iff hfound).mpr (h pc hpc)

/-! ## Generated keys -/

/-- The element that obtains a key, with its attributes and its SQL. -/
def keyEvents (p : Property) (timing : KeyTiming) (sql : String) : List Xml.Event :=
  Xml.node "selectKey"
    [("keyProperty", p.name), ("keyColumn", p.column.name.text), ("order", timing.name),
      ("resultType", p.typeName)]
    (Xml.chars sql)

/-- The element that obtains a key is read back just if the names of its property and column
fit in attributes, and its SQL fits. -/
theorem readsBack_keySelect_iff {generation : KeyGeneration} {default sql : String}
    {timing found : KeyTiming} (hsql : keySql e p generation d default = .ok (sql, found))
    (h : keySelect e p generation d default = .ok (t, timing)) :
    ReadsBack t.print (keyEvents p timing sql) ↔
      Rule.xml.Admits .attribute p.name ∧ Rule.xml.Admits .attribute p.column.name.text ∧
        Rule.xml.Admits .text sql := by
  rw [keySelect, hsql] at h
  cases h
  have hdocument : Xml.IsDocument (keyEvents p timing sql) :=
    ⟨_, _, _, rfl, Xml.balanced_chars sql⟩
  have hexact := exact_selectKey p.name p.column.name.text p.typeName sql timing
  rw [ReadsBack, and_iff_left hdocument]
  refine hexact.readsBack_iff.trans ⟨?_, ?_⟩
  · exact fun hfollows => ⟨hfollows.1, hfollows.2.1, hfollows.2.2.2⟩
  · exact fun hfits => ⟨hfits.1, hfits.2.1, Rule.xml_escaped _, hfits.2.2⟩

end Generation

/-! ## Result maps -/

/-- The texts of a property that a result map binds. -/
def Property.boundNames (p : Property) : List String := [p.name, p.column.name.text]

/-- The element that binds the column of a property. -/
def Property.boundEvents (isKey : Bool) (p : Property) : List Xml.Event :=
  Xml.node (if isKey then "id" else "result")
    [("property", p.name), ("column", p.column.name.text), ("jdbcType", p.column.type.name)] []

namespace Generator

open Generation Template

variable {g : Generator} {s : Statement}

/-- The names of properties and columns that the result map binds: those of the entity, and
those of the members of embedded entities. -/
def boundNames (g : Generator) : List String :=
  (g.entity.properties.filter fun p => !p.isEmbedded).flatMap Property.boundNames ++
    (g.entity.properties.filter (·.isEmbedded)).flatMap fun p =>
      (g.catalog.get? p.typeName).toList.flatMap fun e =>
        p.name :: e.properties.flatMap Property.boundNames

/-- The elements that bind them, with all names as the metadata have them. -/
def boundEvents (g : Generator) : List Xml.Event :=
  ((g.entity.properties.filter fun p => !p.isEmbedded).flatMap fun p => p.boundEvents p.isKey) ++
    (g.entity.properties.filter (·.isEmbedded)).flatMap fun p =>
      (g.catalog.get? p.typeName).toList.flatMap fun e =>
        Xml.node "association" [("property", p.name)]
          (e.properties.flatMap fun member =>
            member.boundEvents (p.role == .embeddedId || member.isKey))

/-- The result map with all names as the metadata have them. -/
def resultMapEvents (g : Generator) : List Xml.Event :=
  Xml.node "resultMap" [("id", StatementName.resultMap.id), ("type", g.entity.typeName)]
    g.boundEvents

/-- The elements of the result map are those of its properties. -/
theorem events_resultMap (h : g.resultMapStatement = .ok s) : s.events = g.resultMapEvents := by
  obtain ⟨embedded, hembedded, h⟩ := bind_eq_ok.mp h
  cases h
  obtain rfl := associations_eq_associationsIn hembedded
  have hbody : (concat (results g.entity.properties) ++
      concat (associationsIn g.catalog g.entity.properties)).events = g.boundEvents := by
    rw [events_append, events_concat, events_concat, results, associationsIn, List.flatMap_map,
      List.flatMap_assoc]
    simp only [List.flatMap_map, associationOf, resultOf, events, events_concat, boundEvents,
      Property.boundEvents]
  simp [Statement.events, statement, hbody, resultMapEvents, Statement.pairs, Statement.plain,
    Statement.pair?, Statement.keyPairs, StatementKind.element]

/-- The entry of a property is exact. -/
theorem exact_resultOf (isKey : Bool) (p : Property) : (resultOf isKey p).Exact :=
  exact_result isKey _ _ _

/-- A result map is exact. -/
theorem exact_resultMap (h : g.resultMapStatement = .ok s) : s.body.Exact := by
  obtain ⟨embedded, hembedded, h⟩ := bind_eq_ok.mp h
  cases h
  obtain rfl := associations_eq_associationsIn hembedded
  have hresults : (concat (results g.entity.properties)).Exact := by
    refine exact_concat fun t ht => ?_
    obtain ⟨p, _, rfl⟩ := List.mem_map.mp ht
    exact exact_resultOf _ p
  have hassociations : (concat (associationsIn g.catalog g.entity.properties)).Exact := by
    refine exact_concat fun t ht => ?_
    obtain ⟨p, _, ht⟩ := List.mem_flatMap.mp ht
    obtain ⟨e, _, rfl⟩ := List.mem_map.mp ht
    refine Exact.association p.name (exact_concat fun t ht => ?_)
    obtain ⟨member, _, rfl⟩ := List.mem_map.mp ht
    exact exact_resultOf _ member
  exact hresults.append hassociations

/-- The texts of a result map fit just if the names that it binds do. -/
theorem follows_resultMap_iff (h : g.resultMapStatement = .ok s) :
    s.body.Follows Rule.xml ↔ ∀ text ∈ g.boundNames, Rule.xml.Admits .attribute text := by
  obtain ⟨embedded, hembedded, h⟩ := bind_eq_ok.mp h
  cases h
  obtain rfl := associations_eq_associationsIn hembedded
  have hresult : ∀ isKey (p : Property), (resultOf isKey p).Follows Rule.xml ↔
      ∀ text ∈ p.boundNames, Rule.xml.Admits .attribute text := by
    intro isKey p
    simp [resultOf, Template.Follows, Property.boundNames]
  have hassociation : ∀ (p : Property) (e : Entity), (associationOf p e).Follows Rule.xml ↔
      Rule.xml.Admits .attribute p.name ∧ ∀ member ∈ e.properties, ∀ text ∈ member.boundNames,
        Rule.xml.Admits .attribute text := by
    intro p e
    simp only [associationOf, Template.Follows, follows_concat_iff, List.forall_mem_map, hresult]
  have hparts : (concat (results g.entity.properties) ++
      concat (associationsIn g.catalog g.entity.properties)).Follows Rule.xml ↔
        (∀ t ∈ results g.entity.properties, t.Follows Rule.xml) ∧
          ∀ t ∈ associationsIn g.catalog g.entity.properties, t.Follows Rule.xml :=
    and_congr follows_concat_iff follows_concat_iff
  refine hparts.trans ?_
  simp only [results, associationsIn, boundNames, List.forall_mem_map, List.forall_mem_flatMap,
    List.forall_mem_append, List.forall_mem_cons, hresult, hassociation]

/-- The result map is read back just if the names that it binds fit in attributes. -/
theorem readsBack_resultMap_iff (h : g.resultMapStatement = .ok s) :
    ReadsBack s.render g.resultMapEvents ↔
      ∀ text ∈ g.boundNames, Rule.xml.Admits .attribute text := by
  rw [← events_resultMap h, Statement.readsBack_iff (exact_resultMap h), follows_resultMap_iff h]

/-- The result map, the element that obtains a key and the condition block are well-formed and
read back with the names of the metadata and the compared texts as they are, exactly if the
names that stand in attributes have no opening angle bracket, ampersand or double quote, and the
SQL of the key and the compared texts have no opening angle bracket or ampersand. -/
theorem names_survive_iff (g : Generator) :
    (∀ s, g.resultMapStatement = .ok s →
      (ReadsBack s.render g.resultMapEvents ↔
        ∀ text ∈ g.boundNames, Rule.xml.Admits .attribute text)) ∧
    (∀ p generation sql t timing,
      Generation.keySql g.entity p generation g.dialect g.defaultSequence = .ok (sql, timing) →
      keySelect g.entity p generation g.dialect g.defaultSequence = .ok (t, timing) →
      (ReadsBack t.print (keyEvents p timing sql) ↔
        Rule.xml.Admits .attribute p.name ∧ Rule.xml.Admits .attribute p.column.name.text ∧
          Rule.xml.Admits .text sql)) ∧
    ∀ t, conditionBlock g.entity g.dialect = .ok t →
      (∀ pc ∈ conditionsOf g.entity,
        Xml.chars (comparedColumn pc.1 pc.2 g.dialect) <:+: t.events) ∧
      (ReadsBack t.print t.events ↔
        ∀ pc ∈ conditionsOf g.entity, ConditionFits g.dialect pc.1 pc.2) := by
  refine ⟨fun s hs => readsBack_resultMap_iff hs, fun p generation sql t timing hsql ht => ?_,
    fun t ht => ⟨column_infix_conditionBlock ht, readsBack_conditionBlock_iff ht⟩⟩
  exact readsBack_keySelect_iff hsql ht

/-! ## Laboratories -/

/-- The generated number of a laboratory, kept in a quoted column. -/
def laboratoryNumber (column : String) : Property :=
  { Property.plain .id "number" "u64" ⟨⟨column, true⟩, .bigint⟩ with
    generated? := some ⟨.auto, none⟩ }

/-- Laboratories with a number, and with a budget that is searched through an expression. -/
def laboratories (column expression : String) : Generator :=
  let budget := { Property.plain .basic "budget" "i64" ⟨.plain "budget", .bigint⟩ with
    conditions := [⟨.lessThan, .always, some expression, ["maxBudget"]⟩] }
  let entity : Entity :=
    { Entity.plain "app::Laboratory<'a>" "laboratories" with
      properties := [laboratoryNumber column, budget] }
  { catalog := Catalog.add .empty entity
    dialect := .postgres
    repository := ⟨"app::Laboratories", "app::Laboratory<'a>", false⟩
    entity
    defaultSequence := "laboratory_seq" }

/-- Single quotes and closing angle brackets survive. -/
theorem names_survive_laboratories :
    let g := laboratories "Lab's number" "greatest(budget, 0) -> 'a'"
    (∃ s, g.resultMapStatement = .ok s ∧ ReadsBack s.render g.resultMapEvents) ∧
    (∃ sql t timing, Generation.keySql g.entity (laboratoryNumber "Lab's number") ⟨.auto, none⟩
        g.dialect g.defaultSequence = .ok (sql, timing) ∧
      keySelect g.entity (laboratoryNumber "Lab's number") ⟨.auto, none⟩ g.dialect
        g.defaultSequence = .ok (t, timing) ∧
      ReadsBack t.print (keyEvents (laboratoryNumber "Lab's number") timing sql)) ∧
    ∃ t, conditionBlock g.entity g.dialect = .ok t ∧ ReadsBack t.print t.events := by
  intro g
  obtain ⟨hresults, hkeys, hconditions⟩ := names_survive_iff g
  have hfits : ∀ pc ∈ conditionsOf g.entity, ConditionFits g.dialect pc.1 pc.2 := by
    intro pc hpc
    rw [List.mem_singleton.mp (show pc ∈ [(_, _)] from hpc)]
    exact ⟨by decide, by decide⟩
  exact ⟨⟨_, rfl, (hresults _ rfl).mpr (by decide)⟩,
    ⟨_, _, _, rfl, rfl, (hkeys _ ⟨.auto, none⟩ _ _ _ rfl rfl).mpr (by decide)⟩,
    ⟨_, rfl, (hconditions _ rfl).2.mpr hfits⟩⟩

/-- A column with an ampersand survives neither in the result map nor in the element that obtains
the key, and an expression with an opening angle bracket does not in the condition block. -/
theorem laboratories_lost :
    let g := laboratories "R&D" "budget < 10 or budget"
    (∃ s, g.resultMapStatement = .ok s ∧ ¬ ReadsBack s.render g.resultMapEvents) ∧
    (∃ sql t timing, Generation.keySql g.entity (laboratoryNumber "R&D") ⟨.auto, none⟩
        g.dialect g.defaultSequence = .ok (sql, timing) ∧
      keySelect g.entity (laboratoryNumber "R&D") ⟨.auto, none⟩ g.dialect g.defaultSequence =
        .ok (t, timing) ∧
      Xml.read? t.print = none) ∧
    ∃ t, conditionBlock g.entity g.dialect = .ok t ∧ ¬ ReadsBack t.print t.events := by
  intro g
  have hnames : ¬ ∀ text ∈ g.boundNames, Rule.xml.Admits .attribute text := by decide
  have hconditions : ¬ ∀ pc ∈ conditionsOf g.entity, ConditionFits g.dialect pc.1 pc.2 := by
    intro h
    exact absurd (h _ List.mem_cons_self).2 (by decide)
  exact ⟨⟨_, rfl, (readsBack_resultMap_iff rfl).not.mpr hnames⟩,
    ⟨_, _, _, rfl, rfl, by decide +kernel⟩,
    ⟨_, rfl, (readsBack_conditionBlock_iff rfl).not.mpr hconditions⟩⟩

end Generator

end EntityMapping
