import EntityMapping.Proofs.Engine.Equivalence
import EntityMapping.Proofs.Xml.Document
import EntityMapping.Proofs.Xml.TemplateReader

/-!
# Legible statements

A text of the metadata may hold an element or a reference of its own, and then a printed statement
has more of them than its template.  If paths are made of names and no SQL has signs of elements and
references, then the template that is read from the print is equivalent to the one that was printed:
what is said of templates holds of printed statements.

Main results:

- `Template.Follows.read?_print`: a template whose texts are legible is read back.
- `Statement.Follows.body?_render`: so is the body of a statement.
- `Generator.IsLegible.body?_of_run`: if the metadata are legible, so are the statements of a run.
-/

namespace EntityMapping

/-! ## The rule of legible texts -/

/-- A character of a path: a letter, a digit, an underscore, or the dot between names. -/
def isPathChar (c : Char) : Bool := c.isAlphanum || c ∈ ['_', '.'] || 128 ≤ c.toNat

/-- Whether a character is read as it stands: no text begins a tag or a reference, paths are made of
names, and only the look-up of a member has brackets. -/
def isLegible : Site → Char → Bool
  | .text, c => Xml.fits .text c && !isMark c
  | .path, c => isPathChar c || c ∈ ['[', ']']
  | site, c => Xml.fits site c

/-- A text that is a path of names. -/
def IsPlainPath (text : String) : Prop := text.toList.all isPathChar = true

/-- SQL without the signs that begin a tag or a reference. -/
def IsPlainSql (text : String) : Prop :=
  Lacks '<' text ∧ Lacks '&' text ∧ Lacks '#' text ∧ Lacks '$' text

/-- A column that may stand in attributes and in the map of columns, too. -/
def IsPlainColumn (text : String) : Prop := IsPlainSql text ∧ Lacks '"' text ∧ Lacks '\'' text

instance (text : String) : Decidable (IsPlainPath text) := inferInstanceAs (Decidable (_ = true))

instance (text : String) : Decidable (IsPlainSql text) := inferInstanceAs (Decidable (_ ∧ _))

instance (text : String) : Decidable (IsPlainColumn text) := inferInstanceAs (Decidable (_ ∧ _))

namespace Rule

variable {R R' : Rule} {site : Site} {text : String}

/-- Every text is read as it stands. -/
def legible : Rule where
  splices := True
  allows site c := isLegible site c = true

instance : Decidable legible.splices := .isTrue trivial

instance (site : Site) (text : String) : Decidable (legible.Admits site text) :=
  decidable_of_iff (text.toList.all (isLegible site) = true) List.all_eq_true

/-- A character of a path begins neither a tag nor a reference, and ends no attribute. -/
theorem fits_of_isPathChar {c : Char} (h : isPathChar c = true) :
    (∀ site, Xml.fits site c = true) ∧ isMark c = false := by
  have hother : c ≠ '<' ∧ c ≠ '&' ∧ c ≠ '"' ∧ c ≠ '\'' ∧ c ≠ '#' ∧ c ≠ '$' := by
    refine ⟨?_, ?_, ?_, ?_, ?_, ?_⟩ <;> rintro rfl <;> exact absurd h (by decide)
  refine ⟨fun site => ?_, by simp [isMark, hother]⟩
  cases site <;> simp [Xml.fits, hother]

/-- A path of names is legible at all sites. -/
theorem admits_of_isPlainPath (h : IsPlainPath text) (site : Site) : legible.Admits site text := by
  intro c hc
  have hpath := List.all_eq_true.mp h c hc
  rcases fits_of_isPathChar hpath with ⟨hfits, hmark⟩
  cases site with
  | text => simp [legible, isLegible, hfits, hmark]
  | path => simp [legible, isLegible, hpath]
  | _ => simp [legible, isLegible, hfits]

/-- What is legible fits. -/
theorem fits_of_isLegible {c : Char} (h : isLegible site c = true) : Xml.fits site c = true := by
  cases site with
  | text => exact (Bool.and_eq_true_iff.mp h).1
  | path =>
    rcases Bool.or_eq_true_iff.mp h with hname | hbracket
    · exact (fits_of_isPathChar hname).1 .path
    · have hsign : c = '[' ∨ c = ']' := by simpa using hbracket
      rcases hsign with rfl | rfl <;> decide
  | _ => exact h

/-- A legible text lacks the signs that are not legible where it stands. -/
theorem lacks_of_admits {c : Char} (h : legible.Admits site text)
    (hsign : isLegible site c = false) : Lacks c text := by
  intro hmem
  have hlegible : isLegible site c = true := h c hmem
  rw [hlegible] at hsign
  cases hsign

/-- SQL is legible if it has none of the signs that begin a tag or a reference. -/
theorem legible_text_iff : legible.Admits .text text ↔ IsPlainSql text := by
  constructor
  · intro h
    exact ⟨lacks_of_admits h (by decide), lacks_of_admits h (by decide),
      lacks_of_admits h (by decide), lacks_of_admits h (by decide)⟩
  · rintro ⟨hopening, hampersand, hhash, hdollar⟩ c hc
    have hother : c ≠ '<' ∧ c ≠ '&' ∧ c ≠ '#' ∧ c ≠ '$' :=
      ⟨fun heq => hopening (heq ▸ hc), fun heq => hampersand (heq ▸ hc),
        fun heq => hhash (heq ▸ hc), fun heq => hdollar (heq ▸ hc)⟩
    simp [legible, isLegible, Xml.fits, isMark, hother]

/-- A column without quotes is legible wherever no path is asked for. -/
theorem admits_of_isPlainColumn (h : IsPlainColumn text) (site : Site) (hsite : site ≠ .path) :
    legible.Admits site text := by
  rcases h with ⟨⟨hopening, hampersand, hhash, hdollar⟩, hdouble, hsingle⟩
  intro c hc
  have hother : c ≠ '<' ∧ c ≠ '&' ∧ c ≠ '#' ∧ c ≠ '$' ∧ c ≠ '"' ∧ c ≠ '\'' :=
    ⟨fun heq => hopening (heq ▸ hc), fun heq => hampersand (heq ▸ hc),
      fun heq => hhash (heq ▸ hc), fun heq => hdollar (heq ▸ hc),
      fun heq => hdouble (heq ▸ hc), fun heq => hsingle (heq ▸ hc)⟩
  cases site with
  | path => exact absurd rfl hsite
  | _ => simp [legible, isLegible, Xml.fits, isMark, hother]

/-- The fixed words of statements are legible. -/
theorem legible_isLenient : legible.IsLenient where
  standard site c hc := by
    have hxml : Xml.fits site c = true := xml_isLenient.standard site c hc
    have hmark : isMark c = false := by
      refine decide_eq_false fun hmem => ?_
      have hsign : c = '#' ∨ c = '$' := by simpa using hmem
      rcases hsign with rfl | rfl <;> cases site <;> exact absurd hc (by decide)
    cases site with
    | text => simp [legible, isLegible, hxml, hmark]
    | path =>
      rcases Bool.or_eq_true_iff.mp hc with hname | hbracket
      · have hpath : isPathChar c = true := Bool.or_eq_true_iff.mpr (.inl hname)
        exact Bool.or_eq_true_iff.mpr (.inl hpath)
      · exact Bool.or_eq_true_iff.mpr (.inr hbracket)
    | _ => exact hxml
  lower text h := by
    rcases legible_text_iff.mp h with ⟨hopening, hampersand, hhash, hdollar⟩
    exact legible_text_iff.mpr ⟨lacks_lower hopening (by decide),
      lacks_lower hampersand (by decide), lacks_lower hhash (by decide),
      lacks_lower hdollar (by decide)⟩

end Rule

namespace Template

variable {R R' : Rule} {around : List (Xml.Tag × Template)} {front t body : Template}

/-- What follows a rule follows every rule that allows more. -/
theorem Follows.mono (hsplices : R.splices → R'.splices)
    (h : ∀ site text, R.Admits site text → R'.Admits site text) (ht : t.Follows R) :
    t.Follows R' := by
  have htest : ∀ test : Test, test.Follows R → test.Follows R' := fun test htest =>
    ⟨htest.1, fun path hpath => h .path path (htest.2 path hpath)⟩
  induction t with
  | empty => trivial
  | append first second ihFirst ihSecond => exact ⟨ihFirst ht.1, ihSecond ht.2⟩
  | text sql => exact h _ _ ht
  | cdata sql => exact ht
  | value path type? => exact h _ _ ht
  | splice path => exact ⟨hsplices ht.1, h _ _ ht.2⟩
  | guard test body ih => exact ⟨htest test ht.1, ih ht.2⟩
  | loop settings body ih =>
    exact ⟨ht.1, fun setting hsetting => h _ _ (ht.2.1 setting hsetting), ih ht.2.2⟩
  | trim settings body ih =>
    exact ⟨ht.1, fun setting hsetting => h _ _ (ht.2.1 setting hsetting), ih ht.2.2⟩
  | whereClause body ih => exact ih ht
  | setClause body ih => exact ih ht
  | choose branches ih => exact ih ht
  | branch test body ih => exact ⟨htest test ht.1, ih ht.2⟩
  | bind name binding =>
    refine ⟨h _ _ ht.1, ?_⟩
    cases binding with
    | pattern leading path trailing => exact h _ _ ht.2
    | columns entries => exact fun e he => ⟨h _ _ (ht.2 e he).1, h _ _ (ht.2 e he).2⟩
  | fragment id => exact h _ _ ht
  | selectKey property column timing typeName body ih =>
    exact ⟨h _ _ ht.1, h _ _ ht.2.1, h _ _ ht.2.2.1, ih ht.2.2.2⟩
  | result isKey property column type => exact ⟨h _ _ ht.1, h _ _ ht.2⟩
  | association property body ih => exact ⟨h _ _ ht.1, ih ht.2⟩

/-! ## Pieces read back -/

/-- The events lead the reader on to a template like the given one. -/
def Arrives (events : List Xml.Event) (t : Template) : Prop :=
  ∀ around front, ∃ u, Reader.run ⟨around, front, .plain⟩ events = some ⟨around, u, .plain⟩ ∧
    u.Equivalent (front ++ t)

/-- Events after which the very template is added. -/
theorem arrives_of_run {events : List Xml.Event}
    (h : ∀ around front, Reader.run ⟨around, front, .plain⟩ events =
      some ⟨around, front ++ t, .plain⟩) : Arrives events t :=
  fun around front => ⟨front ++ t, h around front, .refl _⟩

/-- Parts are read one after the other. -/
theorem Arrives.append {first second : List Xml.Event} {u : Template} (hfirst : Arrives first t)
    (hsecond : Arrives second u) : Arrives (first ++ second) (t ++ u) := by
  intro around front
  rcases hfirst around front with ⟨middle, hmiddle, hlike⟩
  rcases hsecond around middle with ⟨last, hlast, hlike'⟩
  refine ⟨last, ?_, ?_⟩
  · rw [Reader.run_append, hmiddle, Option.bind_some, hlast]
  · exact (hlike'.trans (hlike.append (.refl u))).trans (equivalent_assoc front t u)

/-- An element is read around its content. -/
theorem Arrives.element {events : List Xml.Event} {name : String}
    {attributes : List (String × String)} {wrap : Template → Template} (h : Arrives events body)
    (hread : ∀ u, ofTag? ⟨name, attributes⟩ u = some (wrap u))
    (hwrap : ∀ u v : Template, u.Equivalent v → (wrap u).Equivalent (wrap v)) :
    Arrives (Xml.node name attributes events) (wrap body) := by
  intro around front
  rcases h ((⟨name, attributes⟩, front) :: around) empty with ⟨content, hcontent, hlike⟩
  refine ⟨front ++ wrap content, Reader.run_node hcontent (hread content), ?_⟩
  exact (Equivalent.refl front).append (hwrap _ _ (hlike.trans (equivalent_empty_append body)))

/-- An element without content is read as the template of its tag. -/
theorem arrives_leaf {name : String} {attributes : List (String × String)}
    (hread : ofTag? ⟨name, attributes⟩ empty = some t) :
    Arrives (Xml.node name attributes []) t :=
  arrives_of_run fun _ _ => Reader.run_node rfl hread

/-- A text may be spelled out. -/
theorem equivalent_spell (front : Template) (sql : String) :
    (Reader.spell front sql).Equivalent (front ++ text sql) := by
  have hspell : ∀ (cs : List Char) (front : Template),
      (cs.foldl (fun t c => t ++ Reader.letter c) front).Equivalent
        (front ++ text (String.ofList cs)) := by
    intro cs
    induction cs with
    | nil =>
      intro front
      exact (equivalent_append_empty front).symm.trans
        ((Equivalent.refl front).append equivalent_text_empty)
    | cons c rest ih =>
      intro front
      have htext : String.singleton c ++ String.ofList rest = String.ofList (c :: rest) := by
        apply String.toList_inj.mp
        simp
      have hcut := equivalent_text_append (String.singleton c) (String.ofList rest)
      rw [htext] at hcut
      rw [List.foldl_cons]
      exact ((ih _).trans (equivalent_assoc front _ _)).trans ((Equivalent.refl front).append hcut)
  have hall := hspell sql.toList front
  rwa [String.ofList_toList] at hall

/-- A text without signs of references is read. -/
theorem arrives_chars {sql : String} (h : ∀ c ∈ sql.toList, isMark c = false) :
    Arrives (Xml.chars sql) (text sql) :=
  fun _ front => ⟨Reader.spell front sql, Reader.run_chars h, equivalent_spell front sql⟩

/-- A legible text has no signs of references. -/
theorem arrives_text {sql : String} (h : Rule.legible.Admits .text sql) :
    Arrives (Xml.chars sql) (text sql) := by
  refine arrives_chars fun c hc => ?_
  have hlegible := (Bool.and_eq_true_iff.mp (h c hc)).2
  simpa using hlegible

/-- A reference to a bound value is read back. -/
theorem arrives_value {path : String} (type? : Option JdbcType)
    (h : Rule.legible.Admits .path path) :
    Arrives (value path type?).events (value path type?) := by
  have hbrace : Lacks '\x7d' (referenceText path type?) := by
    have hpath := Rule.lacks_of_admits h (by decide : isLegible .path '\x7d' = false)
    cases type? with
    | none => exact hpath
    | some type =>
      have hname : Lacks '\x7d' ("jdbcType=" ++ type.name) := by cases type <;> decide
      exact lacks_append.mpr ⟨lacks_append.mpr ⟨hpath, by decide⟩, hname⟩
  have hread := reference?_value (Rule.lacks_of_admits h (by decide)) type?
  have htext : printValue path type? =
      String.singleton '#' ++ "\x7b" ++ referenceText path type? ++ "\x7d" := by
    apply String.toList_inj.mp
    cases type? <;> simp [printValue, referenceText]
  rw [events, htext]
  exact arrives_of_run fun _ _ => Reader.run_reference (by decide) hbrace hread

/-- A reference to a spliced text is read back. -/
theorem arrives_splice {path : String} (h : Rule.legible.Admits .path path) :
    Arrives (splice path).events (splice path) := by
  have hbrace : Lacks '\x7d' path := Rule.lacks_of_admits h (by decide)
  have hread : reference? '$' path = some (splice path) := rfl
  have htext : "$\x7b" ++ path ++ "\x7d" = String.singleton '$' ++ "\x7b" ++ path ++ "\x7d" := by
    apply String.toList_inj.mp
    simp
  rw [events, htext]
  exact arrives_of_run fun _ _ => Reader.run_reference (by decide) hbrace hread

/-- The test of an element is read back. -/
theorem read?_test {test : Test} (h : test.Follows Rule.legible) :
    Test.read? test.print = some test :=
  Test.read?_print h.1 fun path hpath => Rule.lacks_of_admits (h.2 path hpath) (by decide)

/-- What is bound to a name is read back. -/
theorem read?_binding {binding : Binding} (h : binding.Follows Rule.legible) :
    Binding.read? binding.text = some binding := by
  cases binding with
  | pattern leading path trailing =>
    exact Binding.read?_pattern (Rule.lacks_of_admits h (by decide))
      (Rule.lacks_of_admits h (by decide)) (Rule.lacks_of_admits h (by decide)) leading trailing
  | columns entries =>
    have hquote : ∀ text, Rule.legible.Admits .entry text → Lacks '\'' text := by
      intro text htext hmem
      have hlegible : isLegible .entry '\'' = true := htext _ hmem
      exact absurd hlegible (by decide)
    exact Binding.read?_columns fun e he => ⟨hquote _ (h e he).1, hquote _ (h e he).2⟩

/-! ## Templates read back -/

/-- A legible template is read back from its elements. -/
theorem Follows.arrives (h : t.Follows Rule.legible) : Arrives t.events t := by
  induction t with
  | empty => exact fun around front => ⟨front, rfl, (equivalent_append_empty front).symm⟩
  | append first second ihFirst ihSecond => exact (ihFirst h.1).append (ihSecond h.2)
  | text sql => exact arrives_text h
  | cdata sql =>
    have hmark : ∀ c ∈ sql.toList, isMark c = false := by
      intro c hc
      have hsign : isSign c = true := List.all_eq_true.mp h c hc
      have hcases : c = '<' ∨ c = '>' ∨ c = '=' := by simpa [isSign] using hsign
      rcases hcases with rfl | rfl | rfl <;> decide
    intro around front
    rcases arrives_chars hmark around front with ⟨u, hu, hlike⟩
    exact ⟨u, hu, hlike.trans ((Equivalent.refl front).append (equivalent_cdata sql))⟩
  | value path type? => exact arrives_value type? h
  | splice path => exact arrives_splice h.2
  | guard test body ih =>
    exact (ih h.2).element (fun u => by simp [ofTag?, read?_test h.1]) fun _ _ hlike =>
      hlike.guard test
  | loop settings body ih =>
    refine (ih h.2.2).element (fun u => ?_) fun _ _ hlike => hlike.loop settings
    simp [ofTag?, settings?_map LoopSetting.ofName?_name]
  | trim settings body ih =>
    refine (ih h.2.2).element (fun u => ?_) fun _ _ hlike => hlike.trim settings
    simp [ofTag?, settings?_map TrimSetting.ofName?_name]
  | whereClause body ih => exact (ih h).element (fun _ => rfl) fun _ _ hlike => hlike.whereClause
  | setClause body ih => exact (ih h).element (fun _ => rfl) fun _ _ hlike => hlike.setClause
  | choose branches ih => exact (ih h).element (fun _ => rfl) fun _ _ hlike => hlike.choose
  | branch test body ih =>
    exact (ih h.2).element (fun u => by simp [ofTag?, read?_test h.1]) fun _ _ hlike =>
      hlike.branch test
  | bind name binding => exact arrives_leaf (by simp [ofTag?, read?_binding h.2])
  | fragment id => exact arrives_leaf rfl
  | selectKey property column timing typeName body ih =>
    exact (ih h.2.2.2).element (fun u => by simp [ofTag?]) fun _ _ hlike =>
      hlike.selectKey property column typeName timing
  | result isKey property column type =>
    cases isKey <;> exact arrives_leaf (by simp [ofTag?])
  | association property body ih =>
    exact (ih h.2).element (fun _ => rfl) fun _ _ hlike => hlike.association property

/-- The template that is read from the elements of a legible one. -/
theorem Follows.ofEvents? (h : t.Follows Rule.legible) :
    ∃ u, ofEvents? t.events = some u ∧ u.Equivalent t := by
  rcases h.arrives [] empty with ⟨u, hu, hlike⟩
  refine ⟨u, ?_, hlike.trans (equivalent_empty_append t)⟩
  rw [Template.ofEvents?, hu]
  rfl

/-- What is legible fits into markup. -/
theorem Follows.xml (h : t.Follows Rule.legible) : t.Follows Rule.xml :=
  h.mono (fun _ => trivial) fun _ _ htext c hc => Rule.fits_of_isLegible (htext c hc)

/-- A template whose texts are legible is read back from its print. -/
theorem Follows.read?_print (h : t.Follows Rule.legible) :
    ∃ u, Template.read? t.print = some u ∧ u.Equivalent t := by
  rcases h.ofEvents? with ⟨u, hu, hlike⟩
  refine ⟨u, ?_, hlike⟩
  rw [Template.read?, h.xml.read?_events, Option.bind_some, hu]

end Template

/-! ## Statements -/

namespace Statement

/-- What is read from a statement depends on its print alone: a body that is printed like a legible
template is read as that template. -/
theorem body?_render_of_print {s : Statement} {u : Template} (hu : u.Follows Rule.legible)
    (hprint : s.body.print = u.print) :
    ∃ t, Statement.body? s.render = some t ∧ t.Equivalent u := by
  have hbody : Xml.Reads .content s.body.print .content u.events := hprint ▸ hu.xml.reads_print
  rcases hu.ofEvents? with ⟨t, ht, hlike⟩
  refine ⟨t, ?_, hlike⟩
  have hdrop : (u.events ++ [Xml.Event.closed s.kind.element]).dropLast = u.events :=
    List.dropLast_concat
  rw [Statement.body?, Xml.read?_of_reads (reads_render_of_body hbody)]
  change Template.ofEvents? (u.events ++ [Xml.Event.closed s.kind.element]).dropLast = some t
  rw [hdrop, ht]

/-- The body of a statement whose texts are legible is read back from the statement. -/
theorem Follows.body?_render {s : Statement} (h : s.Follows Rule.legible) :
    ∃ t, Statement.body? s.render = some t ∧ t.Equivalent s.body :=
  body?_render_of_print h.body rfl

end Statement

/-! ## Metadata -/

/-- No text of the metadata has an element or a reference of its own: paths are made of names, the
columns fit into attributes and into the map of columns, and no SQL has the signs that begin a tag
or a reference. -/
structure Generator.IsLegible (g : Generator) : Prop where
  paths : ∀ text ∈ g.pathTexts, IsPlainPath text
  columns : ∀ text ∈ g.columnTexts, IsPlainColumn text
  sql : ∀ text ∈ g.sqlTexts, IsPlainSql text

/-- Legible metadata obey the rule of legible texts. -/
theorem Generator.IsLegible.obeys {g : Generator} (h : g.IsLegible) : g.Obeys Rule.legible where
  paths text htext := Rule.admits_of_isPlainPath (h.paths text htext)
  columns text htext := Rule.admits_of_isPlainColumn (h.columns text htext)
  sql text htext := Rule.legible_text_iff.mpr (h.sql text htext)
  types _ _ _ _ := rfl

/-- The body of every statement of a run is read back from its print. -/
theorem Generator.IsLegible.body?_of_run {g : Generator} {r after : Registry} {o : Outcome}
    {s : Statement} (h : g.IsLegible) (hrun : g.run r = .ok (o, after)) (hs : s ∈ o.statements) :
    ∃ t, Statement.body? s.render = some t ∧ t.Equivalent s.body := by
  have hfollows := follows_of_run Rule.legible_isLenient h.obeys trivial (fun _ _ _ => rfl) hrun
  exact (hfollows s hs).body?_render

end EntityMapping
