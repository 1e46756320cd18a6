import EntityMapping.Proofs.Run.Effect
import EntityMapping.Proofs.Xml.Printing

/-!
# The document of a run

The statements that a run registers are printed as one document.  Names of metadata stand in it
as they are, in attributes as well as in the SQL; if they have no character that means something
else in markup, the document is well-formed, and it is read as the statements one after the
other.  The names of the namespace and of types are escaped and may be any text.

Main results:

- `Generator.read?_render_of_run`: the elements of a statement are read from its print.
- `Generator.document_wellFormed`: the document of a run is read as its statements.
-/

namespace EntityMapping

/-! ## Documents -/

namespace Xml

/-- The characters that mean something else in markup. -/
def reserved : List Char := ['<', '>', '&', '"', '\'']

/-- The events of a document: one element, whose content is balanced. -/
def IsDocument (events : List Event) : Prop :=
  ∃ name attributes content, events = node name attributes content ∧ Balanced content

/-- Balanced parts are balanced in sequence. -/
theorem balanced_flatMap {α : Type} {items : List α} {events : α → List Event}
    (h : ∀ item ∈ items, Balanced (events item)) : Balanced (items.flatMap events) := by
  induction items with
  | nil => exact .nil
  | cons item rest ih =>
    rw [List.flatMap_cons]
    exact (h item List.mem_cons_self).append
      (ih fun other hother => h other (List.mem_cons_of_mem item hother))

/-- Texts that are read one by one are read together. -/
theorem reads_join {α : Type} {items : List α} {print : α → String} {events : α → List Event}
    (h : ∀ item ∈ items, Reads .content (print item) .content (events item)) :
    Reads .content (String.join (items.map print)) .content (items.flatMap events) := by
  induction items with
  | nil => exact reads_empty _
  | cons item rest ih =>
    have hjoin : String.join ((item :: rest).map print) =
        print item ++ String.join (rest.map print) := by
      apply String.toList_inj.mp
      simp
    rw [hjoin, List.flatMap_cons]
    exact (h item List.mem_cons_self).append
      (ih fun other hother => h other (List.mem_cons_of_mem item hother))

end Xml

/-- The document as the element of its namespace around the elements of its statements. -/
def Outcome.events (o : Outcome) : List Xml.Event :=
  Xml.node "mapper" [("namespace", o.namespaceName)] (o.statements.flatMap Statement.events)

/-- The statements of a run make one document. -/
theorem Outcome.isDocument_events (o : Outcome) : Xml.IsDocument o.events :=
  ⟨_, _, _, rfl, Xml.balanced_flatMap fun s _ => s.balanced_events⟩

/-- A document whose statements have fitting texts is read as its element. -/
theorem Outcome.reads_document {o : Outcome} (h : ∀ s ∈ o.statements, s.Follows Rule.xml) :
    Xml.Reads .content o.document .content o.events := by
  have hstatements := Xml.reads_join fun s hs => (h s hs).reads_render
  have hnamespace : ∀ a ∈ [Xml.RawAttribute.escaped "namespace" o.namespaceName], a.Readable := by
    intro a ha
    rw [List.mem_singleton.mp ha]
    exact Xml.RawAttribute.readable_escaped (by decide) _
  have hmapper := Xml.reads_elementText (by decide : Xml.IsName "mapper") hnamespace (by simp)
    hstatements
  have htext : o.document = Xml.elementText "mapper" [.escaped "namespace" o.namespaceName]
      (String.join (o.statements.map Statement.render)) := by
    apply String.toList_inj.mp
    simp [document, Xml.printAttribute]
  rw [htext]
  exact hmapper

namespace Generator

variable {g : Generator} {r after : Registry} {o : Outcome}

/-- Names without reserved characters fit where they stand. -/
theorem obeys_xml (h : ∀ text ∈ g.nameTexts, ∀ c ∈ Xml.reserved, Lacks c text) :
    g.Obeys Rule.xml := by
  refine obeys_of_names (fun text htext site c hc => ?_) fun text _ => Rule.xml_escaped text
  have hne : ∀ d ∈ Xml.reserved, c ≠ d := fun d hd heq => h text htext d hd (heq ▸ hc)
  have hangle := hne '<' (by decide)
  have hampersand := hne '&' (by decide)
  have hdouble := hne '"' (by decide)
  have hsingle := hne '\'' (by decide)
  cases site <;> simp [Rule.xml, Xml.fits, hangle, hampersand, hdouble, hsingle]

/-- The statements of a run follow every rule that their metadata obey, if it lets values be spliced
in and admits whatever is escaped. -/
theorem follows_of_run {R : Rule} (hR : R.IsLenient) (hg : g.Obeys R) (hsplices : R.splices)
    (hescaped : ∀ text, R.Admits .escaped text) (hrun : g.run r = .ok (o, after)) :
    ∀ s ∈ o.statements, s.Follows R := by
  intro s hs
  rcases make_of_mem_run hrun hs with ⟨name, _, _, companion, hmade⟩
  exact make_follows hR hg (fun _ => hsplices) (fun _ => hescaped companion) hmade

/-- If the metadata obey the rule of markup, the elements on which the statements of a run are
evaluated are those that are read from their print. -/
theorem read?_render_of_run (hg : g.Obeys Rule.xml) (hrun : g.run r = .ok (o, after)) :
    ∀ s ∈ o.statements,
      Xml.read? s.render = some (Xml.node s.kind.element s.pairs s.body.events) := by
  intro s hs
  have hfollows := follows_of_run Rule.xml_isLenient hg trivial Rule.xml_escaped hrun
  exact Xml.read?_of_reads (hfollows s hs).reads_render

/-- If no name, operand or sequence of the metadata has a reserved character, the document of a
run is well-formed: it is read to its end, and as one element around its statements, with
balanced tags and with all attributes and texts as the metadata give them. -/
theorem document_wellFormed (h : ∀ text ∈ g.nameTexts, ∀ c ∈ Xml.reserved, Lacks c text)
    (hrun : g.run r = .ok (o, after)) :
    Xml.read? o.document = some o.events ∧ Xml.IsDocument o.events := by
  have hfollows := follows_of_run Rule.xml_isLenient (obeys_xml h) trivial Rule.xml_escaped hrun
  exact ⟨Xml.read?_of_reads (Outcome.reads_document hfollows), o.isDocument_events⟩

/-! ## Shelves of a generic type -/

/-- Shelves with a place, comparisons and example queries, in a namespace and of types whose names
have reserved characters. -/
def shelves : Generator :=
  let place : Entity :=
    { Entity.plain "app::Place<'a>" "" with
      properties :=
        [Property.plain .basic "hall" "String" ⟨⟨"Hall", true⟩, .varchar⟩,
          Property.plain .basic "row" "i32" ⟨.plain "row_no", .integer⟩]
      embeddable := true }
  let id := { Property.plain .id "id" "Key<u64>" ⟨⟨"Id", true⟩, .bigint⟩ with
    generated? := some ⟨.auto, none⟩ }
  let size := { Property.plain .basic "size" "i32" ⟨.plain "size", .integer⟩ with
    conditions :=
      [⟨.lessThanEqual, .never, some "coalesce(size, 0)", ["maxSize"]⟩,
        ⟨.between, .always, none, ["low", "high"]⟩] }
  let title := { Property.plain .basic "title" "String" ⟨⟨"Title", true⟩, .varchar⟩ with
    conditions := [⟨.containing, .always, none, []⟩, ⟨.isIn, .never, none, ["titles"]⟩] }
  let entity : Entity :=
    { Entity.plain "app::Shelf<'a, &T>" "" with
      table := ⟨"Shelf", true⟩
      schema? := some (.plain "lib")
      properties :=
        [id, Property.plain .embedded "place" "app::Place<'a>" ⟨.plain "place", .varchar⟩, size,
          title]
      supportsExample := true
      companion? := some "app::ShelfExample<'a, &T>" }
  { catalog := (Catalog.add .empty place).add entity
    dialect := .oracle
    repository := ⟨"app::<\"Shelves\">", "app::Shelf<'a, &T>", true⟩
    entity
    defaultSequence := "shelf_seq" }

/-- All eighteen statements of the shelves are in a well-formed document. -/
theorem document_wellFormed_shelves :
    (∀ text ∈ shelves.nameTexts, ∀ c ∈ Xml.reserved, Lacks c text) ∧
    ∃ o after, shelves.run .empty = .ok (o, after) ∧ o.statements.length = 18 ∧
      Xml.read? o.document = some o.events ∧ Xml.IsDocument o.events := by
  have hnames : ∀ text ∈ shelves.nameTexts, ∀ c ∈ Xml.reserved, Lacks c text := by
    simp only [Xml.reserved, List.forall_mem_cons, List.not_mem_nil, IsEmpty.forall_iff,
      implies_true]
    decide
  obtain ⟨o, after, hrun⟩ := exists_run_of_isOk
    (by decide : (shelves.buildAll .empty StatementName.all).isOk = true)
  exact ⟨hnames, o, after, hrun, (length_of_run hrun).trans (by decide),
    document_wellFormed hnames hrun⟩

end Generator

end EntityMapping
