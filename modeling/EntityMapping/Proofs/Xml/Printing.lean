import EntityMapping.Proofs.Run.StatementTexts
import EntityMapping.Proofs.Xml.ColumnMap
import EntityMapping.Proofs.Xml.Markup
import Mathlib.Data.List.Nodup

/-!
# Printed statements as markup

A template stands for elements and characters: its elements with the texts of their attributes,
and the characters of its SQL.  If no text has a character that means something else where it
stands, reading the printed template gives just these.

Main results:

- `Template.balanced_events`: the elements of a template are closed and nested.
- `Template.Follows.reads_print`: a template whose texts fit is read as its elements.
- `Statement.Follows.reads_render`: so is a statement.
-/

namespace EntityMapping

namespace Xml

/-! ## Start tags -/

/-- An attribute as it is printed, and the value that it has. -/
structure RawAttribute where
  name : String
  raw : String
  value : String

namespace RawAttribute

/-- An attribute whose value is printed as it is. -/
@[simps]
def plain (name value : String) : RawAttribute := ⟨name, value, value⟩

/-- An attribute whose value is escaped. -/
@[simps]
def escaped (name value : String) : RawAttribute := ⟨name, escape value, value⟩

/-- The attribute after a blank, between double quotes. -/
def print (a : RawAttribute) : String := " " ++ a.name ++ "=\"" ++ a.raw ++ "\""

@[simp]
theorem toList_print (a : RawAttribute) :
    a.print.toList = ' ' :: (a.name.toList ++ '=' :: '"' :: (a.raw.toList ++ ['"'])) := by
  simp [print]

/-- The name and the value. -/
def pair (a : RawAttribute) : String × String := (a.name, a.value)

@[simp]
theorem pair_plain (name value : String) : (plain name value).pair = (name, value) := rfl

/-- The attribute can be read, and has its value. -/
structure Readable (a : RawAttribute) : Prop where
  name : IsName a.name
  raw : ∀ c ∈ a.raw.toList, c ≠ '"' ∧ c ≠ '<'
  value : decode a.raw.toList = some a.value.toList

/-- An attribute that is printed as it is can be read if nothing in it has a meaning in markup. -/
theorem readable_plain {name value : String} (hname : IsName name)
    (h : ∀ c ∈ value.toList, c ≠ '<' ∧ c ≠ '&' ∧ c ≠ '"') : (plain name value).Readable where
  name := hname
  raw c hc := ⟨(h c hc).2.2, (h c hc).1⟩
  value := decode_of_plain fun hmem => (h '&' hmem).2.1 rfl

/-- An escaped attribute can always be read. -/
theorem readable_escaped {name : String} (hname : IsName name) (value : String) :
    (escaped name value).Readable where
  name := hname
  raw _ hc := ⟨(mem_escape hc).2.2, (mem_escape hc).1⟩
  value := decode_escape value

end RawAttribute

/-- The attributes of a start tag. -/
def attributesText (attributes : List RawAttribute) : String :=
  String.join (attributes.map RawAttribute.print)

/-- The start of a tag with its attributes. -/
def startText (name : String) (attributes : List RawAttribute) : String :=
  "<" ++ name ++ attributesText attributes

/-- An element around a text. -/
def elementText (name : String) (attributes : List RawAttribute) (body : String) : String :=
  startText name attributes ++ ">" ++ body ++ ("</" ++ name ++ ">")

@[simp]
theorem toList_startText (name : String) (attributes : List RawAttribute) :
    (startText name attributes).toList =
      '<' :: (name.toList ++ attributes.flatMap (·.print.toList)) := by
  simp [startText, attributesText, List.flatMap_map]

@[simp]
theorem toList_elementText (name : String) (attributes : List RawAttribute) (body : String) :
    (elementText name attributes body).toList =
      (startText name attributes).toList ++
        '>' :: (body.toList ++ '<' :: '/' :: (name.toList ++ ['>'])) := by
  simp [elementText]

variable {s : State} {t : Tag} {name body : String} {attributes : List RawAttribute}
  {events : List Event}

/-- Attributes with different names are read one after the other. -/
theorem reads_attributes (hs : s.Ends t) (hreadable : ∀ a ∈ attributes, a.Readable)
    (hnodup : (t.attributes.map Prod.fst ++ attributes.map (·.name)).Nodup) :
    ∃ s', Reads s (attributesText attributes) s' [] ∧
      s'.Ends ⟨t.name, t.attributes ++ attributes.map RawAttribute.pair⟩ := by
  induction attributes generalizing s t with
  | nil => exact ⟨s, reads_empty s, by simpa using hs⟩
  | cons a rest ih =>
    obtain ⟨hname, hraw, hvalue⟩ := hreadable a List.mem_cons_self
    have hnew : a.name ∉ t.attributes.map Prod.fst := by
      intro hmem
      exact (List.nodup_append.mp hnodup).2.2 _ hmem _ List.mem_cons_self rfl
    have hfirst := reads_attribute hs hname hnew (.inl rfl) hraw hvalue
    have hnodup' : ((t.add a.name a.value).attributes.map Prod.fst ++
        rest.map (·.name)).Nodup := by
      simpa [Tag.add] using hnodup
    obtain ⟨s', hrest, hs'⟩ := ih (ends_behind _)
      (fun other hother => hreadable other (List.mem_cons_of_mem a hother)) hnodup'
    refine ⟨s', ?_, by simpa [Tag.add, RawAttribute.pair] using hs'⟩
    have htext : attributesText (a :: rest) =
        (" " ++ a.name ++ "=" ++ String.singleton '"' ++ (a.raw ++ String.singleton '"')) ++
          attributesText rest := by
      apply String.toList_inj.mp
      simp [attributesText]
    rw [htext]
    exact hfirst.move hrest

/-- A start tag is read up to its end. -/
theorem reads_startText (hname : IsName name) (hreadable : ∀ a ∈ attributes, a.Readable)
    (hnodup : (attributes.map (·.name)).Nodup) :
    ∃ s, Reads .content (startText name attributes) s [] ∧
      s.Ends ⟨name, attributes.map RawAttribute.pair⟩ := by
  obtain ⟨s, hattributes, hs⟩ := reads_attributes (ends_opening name) hreadable hnodup
  exact ⟨s, (reads_opening hname).move hattributes, hs⟩

/-- An element around a text is read as an element around what the text gives. -/
theorem reads_elementText (hname : IsName name) (hreadable : ∀ a ∈ attributes, a.Readable)
    (hnodup : (attributes.map (·.name)).Nodup) (hbody : Reads .content body .content events) :
    Reads .content (elementText name attributes body) .content
      (node name (attributes.map RawAttribute.pair) events) := by
  obtain ⟨s, hstart, hs⟩ := reads_startText hname hreadable hnodup
  exact reads_element hname hstart hs hbody

/-! ## The rule of markup -/

/-- Whether a character stands for itself at a site. -/
def fits : Site → Char → Bool
  | .text, c => c != '<' && c != '&'
  | .path, c => c != '<' && c != '&' && c != '"'
  | .attribute, c => c != '<' && c != '&' && c != '"'
  | .entry, c => c != '<' && c != '&' && c != '\''
  | .escaped, _ => true

end Xml

/-- Every character stands for itself. -/
def Rule.xml : Rule where
  splices := True
  allows site c := Xml.fits site c = true

namespace Rule

variable {site : Site} {text : String}

instance (site : Site) (text : String) : Decidable (xml.Admits site text) :=
  decidable_of_iff (text.toList.all (Xml.fits site) = true) List.all_eq_true

/-- Text may have neither an angle nor an ampersand. -/
theorem xml_text_iff : xml.Admits .text text ↔ ∀ c ∈ text.toList, c ≠ '<' ∧ c ≠ '&' := by
  simp [Admits, xml, Xml.fits]

/-- An attribute may have no double quote either. -/
theorem xml_attribute_iff :
    xml.Admits .attribute text ↔ ∀ c ∈ text.toList, c ≠ '<' ∧ c ≠ '&' ∧ c ≠ '"' := by
  simp [Admits, xml, Xml.fits, and_assoc]

/-- A path stands in the SQL or in an attribute, so it fits in both. -/
theorem xml_path_iff : xml.Admits .path text ↔ xml.Admits .attribute text := Iff.rfl

/-- What is admitted as a path is admitted as text. -/
theorem xml_path_text (h : xml.Admits .path text) : xml.Admits .text text := by
  refine xml_text_iff.mpr fun c hc => ?_
  have hc := xml_attribute_iff.mp (xml_path_iff.mp h) c hc
  exact ⟨hc.1, hc.2.1⟩

/-- An entry of the map of columns may have no single quote. -/
theorem xml_entry_iff :
    xml.Admits .entry text ↔ ∀ c ∈ text.toList, c ≠ '<' ∧ c ≠ '&' ∧ c ≠ '\'' := by
  simp [Admits, xml, Xml.fits, and_assoc]

/-- Everything is admitted where it is escaped. -/
theorem xml_escaped (text : String) : xml.Admits .escaped text := fun _ _ => rfl

/-- The rule of markup is lenient. -/
theorem xml_isLenient : xml.IsLenient where
  standard site c hc := by
    -- The characters with another meaning are not standard where they have it.
    have hexcluded : ∀ d ∈ ['<', '&', '"', '\''], site.standard d = true →
        Xml.fits site d = true := by
      simp only [List.forall_mem_cons, List.not_mem_nil, IsEmpty.forall_iff, implies_true,
        and_true]
      cases site <;> decide
    by_cases hmem : c ∈ ['<', '&', '"', '\'']
    · exact hexcluded c hmem hc
    · simp only [List.mem_cons, List.not_mem_nil, or_false, not_or] at hmem
      cases site <;> simp [xml, Xml.fits, hmem]
  lower text h := by
    have hlacks := xml_text_iff.mp h
    refine xml_text_iff.mpr fun c hc => ?_
    constructor
    · rintro rfl
      exact lacks_lower (fun hmem => (hlacks _ hmem).1 rfl) (by decide) hc
    · rintro rfl
      exact lacks_lower (fun hmem => (hlacks _ hmem).2 rfl) (by decide) hc

end Rule

/-! ## Templates -/

/-- Settings of loops have different names. -/
theorem LoopSetting.name_injective : Function.Injective LoopSetting.name := by
  intro a b h
  cases a <;> cases b <;> first | rfl | exact absurd h (by decide)

/-- Settings of trimming have different names. -/
theorem TrimSetting.name_injective : Function.Injective TrimSetting.name := by
  intro a b h
  cases a <;> cases b <;> first | rfl | exact absurd h (by decide)

/-- The value that a binding has in its element. -/
def Binding.text : Binding → String
  | .pattern leading path trailing =>
    (if leading then "'%' + " else "") ++ path ++ (if trailing then " + '%'" else "")
  | .columns entries =>
    "#\x7b" ++ String.intercalate "," (entries.map fun e => "'" ++ e.1 ++ "':'" ++ e.2 ++ "'") ++
      "\x7d"

namespace Template

open Xml (node chars)

/-- The elements of a template and the characters of its SQL, with all texts as they are. -/
def events : Template → List Xml.Event
  | empty => []
  | append first second => first.events ++ second.events
  | text sql => chars sql
  | cdata sql => chars sql
  | value path type? => chars (printValue path type?)
  | splice path => chars ("$\x7b" ++ path ++ "\x7d")
  | guard test body => node "if" [("test", test.print)] body.events
  | loop settings body =>
    node "foreach" (settings.map fun setting => (setting.1.name, setting.2)) body.events
  | trim settings body =>
    node "trim" (settings.map fun setting => (setting.1.name, setting.2)) body.events
  | whereClause body => node "where" [] body.events
  | setClause body => node "set" [] body.events
  | choose branches => node "choose" [] branches.events
  | branch test body => node "when" [("test", test.print)] body.events
  | bind name binding => node "bind" [("name", name), ("value", binding.text)] []
  | fragment id => node "include" [("refid", id)] []
  | selectKey property column timing typeName body =>
    node "selectKey"
      [("keyProperty", property), ("keyColumn", column), ("order", timing.name),
        ("resultType", typeName)]
      body.events
  | result isKey property column type =>
    node (if isKey then "id" else "result")
      [("property", property), ("column", column), ("jdbcType", type.name)] []
  | association property body => node "association" [("property", property)] body.events

/-- The elements of a template are closed and nested. -/
theorem balanced_events (t : Template) : Xml.Balanced t.events := by
  induction t with
  | empty => exact .nil
  | append first second ihFirst ihSecond => exact ihFirst.append ihSecond
  | text sql => exact Xml.balanced_chars sql
  | cdata sql => exact Xml.balanced_chars sql
  | value path type? => exact Xml.balanced_chars _
  | splice path => exact Xml.balanced_chars _
  | guard test body ih => exact .element _ _ ih
  | loop settings body ih => exact .element _ _ ih
  | trim settings body ih => exact .element _ _ ih
  | whereClause body ih => exact .element _ _ ih
  | setClause body ih => exact .element _ _ ih
  | choose branches ih => exact .element _ _ ih
  | branch test body ih => exact .element _ _ ih
  | bind name binding => exact .element _ _ .nil
  | fragment id => exact .element _ _ .nil
  | selectKey property column timing typeName body ih => exact .element _ _ ih
  | result isKey property column type => exact .element _ _ .nil
  | association property body ih => exact .element _ _ ih

/-! ## Pieces of templates -/

variable {body : Template} {name : String}

/-- A text that may stand in an attribute is read as the value of the attribute. -/
theorem readable_of_admits {value : String} (hname : Xml.IsName name)
    (h : Rule.xml.Admits .attribute value) : (Xml.RawAttribute.plain name value).Readable :=
  Xml.RawAttribute.readable_plain hname (Rule.xml_attribute_iff.mp h)

/-- A test that follows the rule is printed as an attribute that can be read. -/
theorem admits_test {test : Test} (h : test.Follows Rule.xml) :
    Rule.xml.Admits .attribute test.print := by
  cases test with
  | holds path => exact Rule.xml_path_iff.mp (h.2 path List.mem_cons_self)
  | notNull paths =>
    refine Rule.admits_intercalate (by decide) fun text htext => ?_
    obtain ⟨path, hpath, rfl⟩ := List.mem_map.mp htext
    exact Rule.admits_append.mpr ⟨Rule.xml_path_iff.mp (h.2 path hpath), by decide⟩

/-- A guard is printed as an element. -/
theorem guard_eq_elementText (test : Test) :
    (guard test body).print = Xml.elementText "if" [.plain "test" test.print] body.print := by
  apply String.toList_inj.mp
  simp [print_guard]

/-- A branch is printed as an element. -/
theorem branch_eq_elementText (test : Test) :
    (branch test body).print = Xml.elementText "when" [.plain "test" test.print] body.print := by
  apply String.toList_inj.mp
  simp [print_branch]

/-- An association is printed as an element. -/
theorem association_eq_elementText (property : String) :
    (association property body).print =
      Xml.elementText "association" [.plain "property" property] body.print := by
  apply String.toList_inj.mp
  simp [print_association]

/-- The attributes of the element that obtains a key; only the last one is escaped. -/
def keyAttributes (property column : String) (timing : KeyTiming) (typeName : String) :
    List Xml.RawAttribute :=
  [("keyProperty", property), ("keyColumn", column), ("order", timing.name)].map
    (fun a => .plain a.1 a.2) ++ [.escaped "resultType" typeName]

/-- The selection of a key is printed as an element. -/
theorem selectKey_eq_elementText (property column typeName : String) (timing : KeyTiming) :
    (selectKey property column timing typeName body).print =
      Xml.elementText "selectKey" (keyAttributes property column timing typeName) body.print := by
  apply String.toList_inj.mp
  simp [print_selectKey, Xml.printAttribute, keyAttributes]

/-- An entry of a result map is printed as an empty element. -/
theorem result_eq_startText (isKey : Bool) (property column : String) (type : JdbcType) :
    (result isKey property column type).print =
      Xml.startText (if isKey then "id" else "result")
        ([("property", property), ("column", column), ("jdbcType", type.name)].map
          fun a => .plain a.1 a.2) ++ "/>" := by
  apply String.toList_inj.mp
  simp [print_result]

/-- An element without attributes. -/
theorem reads_bare (hname : Xml.IsName name)
    (hbody : Xml.Reads .content body.print .content body.events) :
    Xml.Reads .content (element name body.print) .content (node name [] body.events) := by
  have htext : element name body.print = Xml.elementText name [] body.print := by
    apply String.toList_inj.mp
    simp [element]
  rw [htext]
  exact Xml.reads_elementText hname (by simp) List.nodup_nil hbody

/-- An element with one attribute. -/
theorem reads_single {key value : String} (hname : Xml.IsName name) (hkey : Xml.IsName key)
    (hvalue : Rule.xml.Admits .attribute value)
    (hbody : Xml.Reads .content body.print .content body.events) :
    Xml.Reads .content (Xml.elementText name [.plain key value] body.print) .content
      (node name [(key, value)] body.events) := by
  refine Xml.reads_elementText hname (fun a ha => ?_) (by simp) hbody
  rw [List.mem_singleton.mp ha]
  exact readable_of_admits hkey hvalue

/-- An element with settings. -/
theorem reads_settings {α : Type} {label : α → String} {settings : List (α × String)}
    (hname : Xml.IsName name) (hlabels : ∀ setting, Xml.IsName (label setting))
    (hinjective : Function.Injective label) (hnodup : (settings.map Prod.fst).Nodup)
    (hvalues : ∀ setting ∈ settings, Rule.xml.Admits .attribute setting.2)
    (hbody : Xml.Reads .content body.print .content body.events) :
    Xml.Reads .content ("<" ++ name ++ printSettings label settings ++ ">" ++ body.print ++
        ("</" ++ name ++ ">")) .content
      (node name (settings.map fun setting => (label setting.1, setting.2)) body.events) := by
  let attributes := settings.map fun setting => Xml.RawAttribute.plain (label setting.1) setting.2
  have htext : "<" ++ name ++ printSettings label settings = Xml.startText name attributes := by
    apply String.toList_inj.mp
    simp [printSettings, attributes, List.flatMap_map]
  have hpairs : settings.map (fun setting => (label setting.1, setting.2)) =
      attributes.map Xml.RawAttribute.pair := by
    simp [attributes]
  have hnames : attributes.map (·.name) = (settings.map Prod.fst).map label := by
    simp [attributes]
  rw [htext, hpairs]
  refine Xml.reads_elementText hname (fun a ha => ?_) (hnames ▸ List.Nodup.map hinjective hnodup) hbody
  obtain ⟨setting, hsetting, rfl⟩ := List.mem_map.mp ha
  exact readable_of_admits (hlabels setting.1) (hvalues setting hsetting)

/-- An element without content whose attributes are plain. -/
theorem reads_emptyElement (attributes : List (String × String)) (hname : Xml.IsName name)
    (hkeys : ∀ a ∈ attributes, Xml.IsName a.1) (hnodup : (attributes.map Prod.fst).Nodup)
    (hvalues : ∀ a ∈ attributes, Rule.xml.Admits .attribute a.2) (blank : Bool) :
    Xml.Reads .content (Xml.startText name (attributes.map fun a => .plain a.1 a.2) ++
        if blank then " />" else "/>") .content (node name attributes []) := by
  have hnames : (attributes.map fun a => Xml.RawAttribute.plain a.1 a.2).map (·.name) =
      attributes.map Prod.fst := by
    simp
  have hpairs : (attributes.map fun a => Xml.RawAttribute.plain a.1 a.2).map
      Xml.RawAttribute.pair = attributes := by
    simp [Function.comp_def]
  have hreadable : ∀ a ∈ attributes.map fun a => Xml.RawAttribute.plain a.1 a.2, a.Readable := by
    intro raw hraw
    obtain ⟨a, ha, rfl⟩ := List.mem_map.mp hraw
    exact readable_of_admits (hkeys a ha) (hvalues a ha)
  obtain ⟨s, hstart, hs⟩ := Xml.reads_startText hname hreadable (hnames ▸ hnodup)
  rw [hpairs] at hs
  cases blank with
  | true => exact hstart.move hs.reads_blankEnd
  | false => exact hstart.move hs.reads_emptyEnd

/-- A pattern is read back. -/
theorem reads_pattern {path : String} {leading trailing : Bool}
    (hname : Rule.xml.Admits .attribute name) (hpath : Rule.xml.Admits .path path) :
    Xml.Reads .content (bind name (.pattern leading path trailing)).print .content
      (bind name (.pattern leading path trailing)).events := by
  let value := (Binding.pattern leading path trailing).text
  have hvalue : Rule.xml.Admits .attribute value := by
    have hleading : Rule.xml.Admits .attribute (if leading then "'%' + " else "") := by
      cases leading <;> decide
    have htrailing : Rule.xml.Admits .attribute (if trailing then " + '%'" else "") := by
      cases trailing <;> decide
    simp [value, Binding.text, hleading, Rule.xml_path_iff.mp hpath, htrailing]
  have htext : (bind name (.pattern leading path trailing)).print =
      Xml.startText "bind" ([("name", name), ("value", value)].map fun a => .plain a.1 a.2) ++
        if true then " />" else "/>" := by
    apply String.toList_inj.mp
    simp [print_pattern, value, Binding.text]
  rw [htext]
  refine reads_emptyElement _ (by decide) (by simp +decide) (by simp) (fun a ha => ?_) true
  simp only [List.mem_cons, List.not_mem_nil, or_false] at ha
  rcases ha with rfl | rfl
  · exact hname
  · exact hvalue

/-- The map of columns is its pieces with quotes between. -/
theorem toList_text_columns (entries : List (String × String)) :
    (Binding.columns entries).text.toList = ['\''].intercalate (mapPieces entries) := by
  have hentries : (entries.map fun e => "'" ++ e.1 ++ "':'" ++ e.2 ++ "'").map String.toList =
      entries.map (quotedEntry ['\'']) := by
    rw [List.map_map]
    exact List.map_congr_left fun e _ => by simp [quotedEntry]
  rw [intercalate_mapPieces, Binding.text]
  simp only [String.toList_append, String.toList_intercalate, hentries]
  rfl

/-- The map of columns stands between single quotes, which are escaped in its value. -/
theorem reads_columns {entries : List (String × String)}
    (hname : Rule.xml.Admits .attribute name)
    (h : ∀ e ∈ entries, Rule.xml.Admits .entry e.1 ∧ Rule.xml.Admits .entry e.2) :
    Xml.Reads .content (bind name (.columns entries)).print .content
      (bind name (.columns entries)).events := by
  let raw := String.ofList (columnsLiteral entries)
  have hfits : ∀ e ∈ entries, (∀ c ∈ e.1.toList, c ≠ '<' ∧ c ≠ '&' ∧ c ≠ '\'') ∧
      ∀ c ∈ e.2.toList, c ≠ '<' ∧ c ≠ '&' ∧ c ≠ '\'' := fun e he =>
    ⟨Rule.xml_entry_iff.mp (h e he).1, Rule.xml_entry_iff.mp (h e he).2⟩
  have hquote : '\'' ∉ columnsLiteral entries :=
    not_mem_columnsLiteral (by decide) (by decide) fun e he =>
      ⟨fun hmem => ((hfits e he).1 _ hmem).2.2 rfl, fun hmem => ((hfits e he).2 _ hmem).2.2 rfl⟩
  have hangle : '<' ∉ columnsLiteral entries :=
    not_mem_columnsLiteral (by decide) (by decide) fun e he =>
      ⟨fun hmem => ((hfits e he).1 _ hmem).1 rfl, fun hmem => ((hfits e he).2 _ hmem).1 rfl⟩
  have hraw : ∀ c ∈ raw.toList, c ≠ '\'' ∧ c ≠ '<' := by
    intro c hc
    rw [String.toList_ofList] at hc
    exact ⟨fun heq => hquote (heq ▸ hc), fun heq => hangle (heq ▸ hc)⟩
  have hdecode : Xml.decode raw.toList = some (Binding.columns entries).text.toList := by
    rw [String.toList_ofList, toList_text_columns]
    exact decode_columnsLiteral fun e he =>
      ⟨fun hmem => ((hfits e he).1 _ hmem).2.1 rfl, fun hmem => ((hfits e he).2 _ hmem).2.1 rfl⟩
  have hreadable := readable_of_admits (by decide : Xml.IsName "name") hname
  obtain ⟨s, hstart, hs⟩ := Xml.reads_startText (by decide : Xml.IsName "bind")
    (fun a ha => List.mem_singleton.mp ha ▸ hreadable) (by simp)
  have hvalue := Xml.reads_attribute hs (by decide : Xml.IsName "value") (by simp) (.inr rfl)
    hraw hdecode
  have htext : (bind name (.columns entries)).print =
      Xml.startText "bind" [.plain "name" name] ++ (" " ++ "value" ++ "=" ++
        String.singleton '\'' ++ (raw ++ String.singleton '\'')) ++ "/>" := by
    rw [print_columnsLiteral]
    apply String.toList_inj.mp
    simp [raw]
  rw [htext]
  exact (hstart.move hvalue).move (Xml.ends_behind _).reads_emptyEnd

/-- A bound value is read back as text. -/
theorem reads_value {path : String} (type? : Option JdbcType)
    (h : Rule.xml.Admits .path path) :
    Xml.Reads .content (value path type?).print .content (value path type?).events := by
  have hpath := Rule.xml_path_text h
  have hvalue : Rule.xml.Admits .text (printValue path type?) := by
    cases type? with
    | none => simp +decide [printValue, hpath]
    | some type =>
      have htype : Rule.xml.Admits .text type.name := by cases type <;> decide
      simp +decide [printValue, hpath, htype]
  exact Xml.reads_text (Rule.xml_text_iff.mp hvalue)

/-- A spliced value is read back as text. -/
theorem reads_splice {path : String} (h : Rule.xml.Admits .path path) :
    Xml.Reads .content (splice path).print .content (splice path).events := by
  have hsplice : Rule.xml.Admits .text ("$\x7b" ++ path ++ "\x7d") := by
    simp +decide [Rule.xml_path_text h]
  exact Xml.reads_text (Rule.xml_text_iff.mp hsplice)

/-- A loop is read back with its settings. -/
theorem reads_loop {settings : List (LoopSetting × String)}
    (hnodup : (settings.map Prod.fst).Nodup)
    (hvalues : ∀ setting ∈ settings, Rule.xml.Admits .attribute setting.2)
    (hbody : Xml.Reads .content body.print .content body.events) :
    Xml.Reads .content (loop settings body).print .content (loop settings body).events := by
  have helement := reads_settings (by decide : Xml.IsName "foreach")
    (fun setting => by cases setting <;> decide) LoopSetting.name_injective hnodup hvalues hbody
  have htext : (loop settings body).print = "<" ++ "foreach" ++
      printSettings LoopSetting.name settings ++ ">" ++ body.print ++
        ("</" ++ "foreach" ++ ">") := by
    apply String.toList_inj.mp
    simp [print_loop]
  rw [htext]
  exact helement

/-- A trimmed part is read back with its settings. -/
theorem reads_trim {settings : List (TrimSetting × String)}
    (hnodup : (settings.map Prod.fst).Nodup)
    (hvalues : ∀ setting ∈ settings, Rule.xml.Admits .attribute setting.2)
    (hbody : Xml.Reads .content body.print .content body.events) :
    Xml.Reads .content (trim settings body).print .content (trim settings body).events := by
  have helement := reads_settings (by decide : Xml.IsName "trim")
    (fun setting => by cases setting <;> decide) TrimSetting.name_injective hnodup hvalues hbody
  have htext : (trim settings body).print = "<" ++ "trim" ++
      printSettings TrimSetting.name settings ++ ">" ++ body.print ++
        ("</" ++ "trim" ++ ">") := by
    apply String.toList_inj.mp
    simp [print_trim]
  rw [htext]
  exact helement

/-- An included fragment is read back. -/
theorem reads_fragment {id : String} (h : Rule.xml.Admits .attribute id) :
    Xml.Reads .content (fragment id).print .content (fragment id).events := by
  have helement := reads_emptyElement [("refid", id)] (by decide : Xml.IsName "include")
    (by simp +decide) (by simp) (by simpa using h) false
  have htext : (fragment id).print = Xml.startText "include"
      ([("refid", id)].map fun a => .plain a.1 a.2) ++ if false then " />" else "/>" := by
    apply String.toList_inj.mp
    simp [print_fragment]
  rw [htext]
  exact helement

/-- The type of a key may hold any characters, since it is escaped. -/
theorem reads_selectKey {property column : String} (timing : KeyTiming) (typeName : String)
    (hproperty : Rule.xml.Admits .attribute property)
    (hcolumn : Rule.xml.Admits .attribute column)
    (hbody : Xml.Reads .content body.print .content body.events) :
    Xml.Reads .content (selectKey property column timing typeName body).print .content
      (selectKey property column timing typeName body).events := by
  have htiming : Rule.xml.Admits .attribute timing.name := by cases timing <;> decide
  have hreadable : ∀ a ∈ keyAttributes property column timing typeName, a.Readable := by
    intro a ha
    simp only [keyAttributes, List.map_cons, List.map_nil, List.cons_append, List.nil_append,
      List.mem_cons, List.not_mem_nil, or_false] at ha
    rcases ha with rfl | rfl | rfl | rfl
    · exact readable_of_admits (by decide) hproperty
    · exact readable_of_admits (by decide) hcolumn
    · exact readable_of_admits (by decide) htiming
    · exact Xml.RawAttribute.readable_escaped (by decide) typeName
  have helement := Xml.reads_elementText (by decide : Xml.IsName "selectKey") hreadable
    (by simp [keyAttributes]) hbody
  rw [selectKey_eq_elementText]
  exact helement

/-- An entry of a result map is read back. -/
theorem reads_result {property column : String} (isKey : Bool) (type : JdbcType)
    (hproperty : Rule.xml.Admits .attribute property)
    (hcolumn : Rule.xml.Admits .attribute column) :
    Xml.Reads .content (result isKey property column type).print .content
      (result isKey property column type).events := by
  have htype : Rule.xml.Admits .attribute type.name := by cases type <;> decide
  have helement := reads_emptyElement
    [("property", property), ("column", column), ("jdbcType", type.name)]
    (by cases isKey <;> decide : Xml.IsName (if isKey then "id" else "result"))
    (by simp +decide) (by simp) (by simp [hproperty, hcolumn, htype]) false
  rw [result_eq_startText]
  exact helement

/-! ## Printed templates -/

/-- A template whose texts fit is read as its elements. -/
theorem Follows.reads_print {t : Template} (h : t.Follows Rule.xml) :
    Xml.Reads .content t.print .content t.events := by
  induction t with
  | empty => exact Xml.reads_empty _
  | append first second ihFirst ihSecond => exact (ihFirst h.1).append (ihSecond h.2)
  | text sql => exact Xml.reads_text (Rule.xml_text_iff.mp h)
  | cdata sql =>
    refine Xml.reads_cdata fun c hc => ?_
    have hsign := List.all_eq_true.mp h c hc
    rintro rfl
    exact absurd hsign (by decide)
  | value path type? => exact reads_value type? h
  | splice path => exact reads_splice h.2
  | guard test body ih =>
    have helement := reads_single (by decide : Xml.IsName "if") (by decide : Xml.IsName "test")
      (admits_test h.1) (ih h.2)
    rw [guard_eq_elementText]
    exact helement
  | loop settings body ih => exact reads_loop h.1 h.2.1 (ih h.2.2)
  | trim settings body ih => exact reads_trim h.1 h.2.1 (ih h.2.2)
  | whereClause body ih => exact reads_bare (by decide) (ih h)
  | setClause body ih => exact reads_bare (by decide) (ih h)
  | choose branches ih => exact reads_bare (by decide) (ih h)
  | branch test body ih =>
    have helement := reads_single (by decide : Xml.IsName "when") (by decide : Xml.IsName "test")
      (admits_test h.1) (ih h.2)
    rw [branch_eq_elementText]
    exact helement
  | bind name binding =>
    cases binding with
    | pattern leading path trailing => exact reads_pattern h.1 h.2
    | columns entries => exact reads_columns h.1 h.2
  | fragment id => exact reads_fragment h
  | selectKey property column timing typeName body ih =>
    obtain ⟨hproperty, hcolumn, _, hbody⟩ := h
    exact reads_selectKey timing typeName hproperty hcolumn (ih hbody)
  | result isKey property column type => exact reads_result isKey type h.1 h.2
  | association property body ih =>
    have helement := reads_single (by decide : Xml.IsName "association")
      (by decide : Xml.IsName "property") h.1 (ih h.2)
    rw [association_eq_elementText]
    exact helement

/-- The elements of a template, on which it is evaluated, are those that are read from its print. -/
theorem Follows.read?_events {t : Template} (h : t.Follows Rule.xml) :
    Xml.read? t.print = some t.events := Xml.read?_of_reads h.reads_print

end Template

/-! ## Statements -/

namespace Statement

/-- The attributes that tell the key, with their values. -/
def keyPairs : Option KeyInfo → List (String × String)
  | some key =>
    [("keyProperty", key.property), ("keyColumn", key.column),
      ("useGeneratedKeys", if key.generated then "true" else "false")]
  | none => []

/-- An attribute that is left out without a value. -/
def pair? (name : String) (value? : Option String) : List (String × String) :=
  value?.toList.map fun value => (name, value)

/-- The attributes of the statement with their values. -/
def pairs (s : Statement) : List (String × String) :=
  [("id", s.id)] ++ (if s.kind = .resultMap then pair? "type" s.resultType? else []) ++
    pair? "parameterType" s.parameterType? ++ keyPairs s.key? ++
    (if s.kind = .resultMap then [] else pair? "resultType" s.resultType?) ++
    pair? "resultMap" s.resultMap?

/-- The statement as an element. -/
def events (s : Statement) : List Xml.Event := Xml.node s.kind.element s.pairs s.body.events

/-- The events of a statement are balanced. -/
theorem balanced_events (s : Statement) : Xml.Balanced s.events :=
  .element _ _ s.body.balanced_events

/-- An attribute that may be missing is printed if it is there. -/
theorem toList_printAttribute? (name : String) (value? : Option String) :
    (Xml.printAttribute? name value?).toList = (pair? name value?).flatMap fun a =>
      (Xml.RawAttribute.escaped a.1 a.2).print.toList := by
  cases value? <;> simp [Xml.printAttribute?, Xml.printAttribute, pair?]

/-- The attributes of a key are printed one after the other. -/
theorem toList_keyAttributes (key? : Option KeyInfo) :
    (keyAttributes key?).toList = (keyPairs key?).flatMap fun a =>
      (Xml.RawAttribute.escaped a.1 a.2).print.toList := by
  cases key? <;> simp [keyAttributes, Xml.printAttribute, keyPairs]

/-- The attributes are printed one after the other, all of them escaped. -/
theorem attributes_eq (s : Statement) :
    s.attributes = Xml.attributesText (s.pairs.map fun a => .escaped a.1 a.2) := by
  apply String.toList_inj.mp
  by_cases hkind : s.kind = .resultMap <;>
    simp [attributes, pairs, hkind, Xml.attributesText, toList_printAttribute?,
      toList_keyAttributes, List.flatMap_map, Xml.printAttribute]

/-- The names of the attributes are among these, in this order. -/
theorem pairs_names_sublist (s : Statement) :
    (s.pairs.map Prod.fst).Sublist
      (["id"] ++ ["type"] ++ ["parameterType"] ++
        ["keyProperty", "keyColumn", "useGeneratedKeys"] ++ ["resultType"] ++ ["resultMap"]) := by
  have hoptional : ∀ name value?, ((pair? name value?).map Prod.fst).Sublist [name] := by
    intro name value?
    cases value? <;> simp [pair?]
  have hkey : ((keyPairs s.key?).map Prod.fst).Sublist
      ["keyProperty", "keyColumn", "useGeneratedKeys"] := by
    cases s.key? <;> simp [keyPairs]
  have htype : ((if s.kind = .resultMap then pair? "type" s.resultType? else []).map
      Prod.fst).Sublist ["type"] := by
    split
    · exact hoptional _ _
    · exact List.nil_sublist _
  have hresult : ((if s.kind = .resultMap then [] else pair? "resultType" s.resultType?).map
      Prod.fst).Sublist ["resultType"] := by
    split
    · exact List.nil_sublist _
    · exact hoptional _ _
  simp only [pairs, List.map_append]
  exact (((((List.Sublist.refl _).append htype).append (hoptional _ _)).append hkey).append
    hresult).append (hoptional _ _)

/-- The attributes of a statement have names of markup. -/
theorem isName_of_mem_pairs {s : Statement} {a : String × String} (h : a ∈ s.pairs) :
    Xml.IsName a.1 := by
  have hmem := (pairs_names_sublist s).subset (List.mem_map_of_mem h)
  revert hmem
  generalize a.1 = name
  revert name
  decide

/-- The attributes of the statement as they are printed. -/
def rawAttributes (s : Statement) : List Xml.RawAttribute :=
  s.pairs.map fun a => .escaped a.1 a.2

/-- The attributes of a statement can be read. -/
theorem readable_rawAttributes (s : Statement) : ∀ a ∈ s.rawAttributes, a.Readable := by
  intro raw hraw
  obtain ⟨a, ha, rfl⟩ := List.mem_map.mp hraw
  exact Xml.RawAttribute.readable_escaped (isName_of_mem_pairs ha) a.2

/-- The attributes of a statement have different names. -/
theorem nodup_rawAttributes (s : Statement) : (s.rawAttributes.map (·.name)).Nodup := by
  have hnames := (pairs_names_sublist s).nodup (by decide)
  simpa [rawAttributes, Function.comp_def] using hnames

/-- The attributes of a statement are read as its pairs. -/
theorem pair_rawAttributes (s : Statement) :
    s.rawAttributes.map Xml.RawAttribute.pair = s.pairs := by
  simp [rawAttributes, Function.comp_def, Xml.RawAttribute.pair]

/-- The elements of statements have names of markup. -/
theorem isName_element (kind : StatementKind) : Xml.IsName kind.element := by
  cases kind <;> decide

/-- A statement is printed as an element. -/
theorem render_eq_elementText (s : Statement) :
    s.render = Xml.elementText s.kind.element s.rawAttributes s.body.print := by
  apply String.toList_inj.mp
  simp [render, attributes_eq, rawAttributes, Xml.attributesText, Xml.elementText, Xml.startText]

/-- A statement is read as its element around what is read from its body. -/
theorem reads_render_of_body {s : Statement} {content : List Xml.Event}
    (hbody : Xml.Reads .content s.body.print .content content) :
    Xml.Reads .content s.render .content (Xml.node s.kind.element s.pairs content) := by
  have helement := Xml.reads_elementText (isName_element s.kind) s.readable_rawAttributes
    s.nodup_rawAttributes hbody
  rw [pair_rawAttributes] at helement
  rw [render_eq_elementText]
  exact helement

/-- A statement whose texts fit is read as its element. -/
theorem Follows.reads_render {s : Statement} (h : s.Follows Rule.xml) :
    Xml.Reads .content s.render .content s.events :=
  reads_render_of_body h.body.reads_print

end Statement

end EntityMapping
