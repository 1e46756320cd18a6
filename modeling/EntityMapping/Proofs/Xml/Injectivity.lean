import EntityMapping.Proofs.Xml.Printing

/-!
# Statements told apart by their texts

The text of a statement tells what was printed.  A body may be any text, also one that looks like
tags or attributes, or that cannot be read at all; but the start tag in front of it ends before the
body begins, since no value of an attribute has an angle bracket or a double quote once it is
escaped.  So two texts that agree have the same start tag, and then the same body behind it.

Main results:

- `Xml.Reads.event_unique`: the first event of a text does not depend on what follows.
- `Xml.elementText_tag_inj`, `Xml.elementText_body_inj`: the text of an element tells its name, its
  attributes and its content.
- `Statement.render_eq_iff`: what the text of a statement tells.
-/

namespace EntityMapping

namespace Xml

/-! ## Elements -/

variable {first second rest rest' : String} {e e' : Event}

/-- Two texts that are read as one event each give the same event if some text starts with both
of them, whether or not the rest of that text can be read. -/
theorem Reads.event_unique (hfirst : Reads .content first .content [e])
    (hsecond : Reads .content second .content [e']) (h : first ++ rest = second ++ rest') :
    e = e' := by
  -- The shorter text starts the longer one, and is read first there.
  have hextended : ∀ {front back : List Char} {e e' : Event},
      scan .content front = some (.content, [e]) →
      scan .content (front ++ back) = some (.content, [e']) → e = e' := by
    intro front back e e' hfront hboth
    rw [scan_append hfront] at hboth
    obtain ⟨⟨last, events⟩, _, heq⟩ := Option.map_eq_some_iff.mp hboth
    cases heq
    rfl
  have hlists : first.toList ++ rest.toList = second.toList ++ rest'.toList := by
    rw [← String.toList_append, h, String.toList_append]
  rcases List.append_eq_append_iff.mp hlists with ⟨back, hback, _⟩ | ⟨back, hback, _⟩
  · rw [Reads, hback] at hsecond
    exact hextended hfirst hsecond
  · rw [Reads, hback] at hfirst
    exact (hextended hsecond hfirst).symm

variable {name name' body body' : String} {attributes attributes' : List RawAttribute}

/-- The text of an element tells its name and its attributes with their values. -/
theorem elementText_tag_inj (hname : IsName name) (hname' : IsName name')
    (hreadable : ∀ a ∈ attributes, a.Readable) (hreadable' : ∀ a ∈ attributes', a.Readable)
    (hnodup : (attributes.map (·.name)).Nodup) (hnodup' : (attributes'.map (·.name)).Nodup)
    (h : elementText name attributes body = elementText name' attributes' body') :
    name = name' ∧ attributes.map RawAttribute.pair = attributes'.map RawAttribute.pair := by
  obtain ⟨s, hstart, hs⟩ := reads_startText hname hreadable hnodup
  obtain ⟨s', hstart', hs'⟩ := reads_startText hname' hreadable' hnodup'
  have htexts : (startText name attributes ++ ">") ++ (body ++ ("</" ++ name ++ ">")) =
      (startText name' attributes' ++ ">") ++ (body' ++ ("</" ++ name' ++ ">")) := by
    simpa only [elementText, String.append_assoc] using h
  have hevent := Reads.event_unique (hstart.move hs.reads_end) (hstart'.move hs'.reads_end) htexts
  exact Event.opened.inj hevent

/-- Behind the same start tag the text of an element tells the content. -/
theorem elementText_body_inj
    (h : elementText name attributes body = elementText name attributes body') : body = body' := by
  have hlists := congrArg String.toList h
  simp only [toList_elementText, List.append_cancel_left_eq, List.cons.injEq, true_and,
    List.append_cancel_right_eq] at hlists
  exact String.toList_inj.mp hlists

end Xml

/-! ## Statements -/

/-- A kind is read back from its element. -/
theorem StatementKind.ofElement?_element (k : StatementKind) : ofElement? k.element = some k := by
  cases k <;> rfl

/-- Kinds have different elements. -/
theorem StatementKind.element_injective {k k' : StatementKind} (h : k.element = k'.element) :
    k = k' :=
  Option.some.inj ((ofElement?_element k).symm.trans (h ▸ ofElement?_element k'))

/-- What is printed of a key: all but the timing. -/
def KeyInfo.printed (key : KeyInfo) : String × String × Bool :=
  (key.property, key.column, key.generated)

namespace Statement

variable {s t : Statement}

/-- The flag of a key as it is printed. -/
def flagText (generated : Bool) : String := if generated then "true" else "false"

/-- The flags have different texts. -/
theorem flagText_injective {a b : Bool} (h : flagText a = flagText b) : a = b := by
  revert a b
  decide

/-- The names of the attributes that a statement of a kind may have. -/
def labels (kind : StatementKind) : List String :=
  ["id", if kind = .resultMap then "type" else "resultType", "parameterType", "keyProperty",
    "keyColumn", "useGeneratedKeys", "resultMap"]

/-- The values of these attributes, as far as the statement has them. -/
def values (s : Statement) : List (Option String) :=
  [some s.id, s.resultType?, s.parameterType?, s.key?.map KeyInfo.property,
    s.key?.map KeyInfo.column, s.key?.map fun key => flagText key.generated, s.resultMap?]

/-- An attribute that may be missing is found under its own name only. -/
theorem lookup_pair? (label name : String) (value? : Option String) :
    (pair? name value?).lookup label = if label = name then value? else none := by
  cases value? with
  | none => simp [pair?]
  | some value => simp [pair?, beq_eq_decide, apply_ite]

/-- What the attributes of a key tell. -/
theorem lookup_keyPairs (label : String) (key? : Option KeyInfo) :
    (keyPairs key?).lookup label =
      if label = "keyProperty" then key?.map KeyInfo.property
      else if label = "keyColumn" then key?.map KeyInfo.column
      else if label = "useGeneratedKeys" then key?.map fun key => flagText key.generated
      else none := by
  cases key? with
  | none => simp [keyPairs]
  | some key =>
    simp only [keyPairs, List.lookup_cons, List.lookup_nil, beq_eq_decide, flagText]
    grind

/-- The attributes have different names, so each value is found under a name of its own. -/
theorem map_lookup_labels (s : Statement) :
    (labels s.kind).map (fun label => s.pairs.lookup label) = s.values := by
  by_cases hkind : s.kind = .resultMap <;>
    simp [labels, values, pairs, hkind, List.lookup_append, List.lookup_cons, lookup_pair?,
      lookup_keyPairs]

/-- Keys are printed alike if their properties, columns and flags are. -/
theorem map_printed_inj {key? key'? : Option KeyInfo}
    (hproperty : key?.map KeyInfo.property = key'?.map KeyInfo.property)
    (hcolumn : key?.map KeyInfo.column = key'?.map KeyInfo.column)
    (hflag : (key?.map fun key => flagText key.generated) =
      key'?.map fun key => flagText key.generated) :
    key?.map KeyInfo.printed = key'?.map KeyInfo.printed := by
  cases key? with
  | none => cases key'? <;> simp_all
  | some key =>
    cases key'? with
    | none => cases hproperty
    | some key' =>
      simp only [Option.map_some, Option.some.injEq] at hproperty hcolumn hflag
      simp [KeyInfo.printed, hproperty, hcolumn, flagText_injective hflag]

/-- The attributes of a key show no more than what is printed. -/
theorem keyPairs_congr {key? key'? : Option KeyInfo}
    (h : key?.map KeyInfo.printed = key'?.map KeyInfo.printed) :
    keyPairs key? = keyPairs key'? := by
  cases key? with
  | none =>
    cases key'? with
    | none => rfl
    | some key' => cases h
  | some key =>
    cases key'? with
    | none => cases h
    | some key' =>
      simp only [Option.map_some, KeyInfo.printed, Option.some.injEq, Prod.mk.injEq] at h
      obtain ⟨hproperty, hcolumn, hflag⟩ := h
      simp [keyPairs, hproperty, hcolumn, hflag]

/-! ## Texts of statements -/

/-- The text tells the kind and the attributes. -/
theorem pairs_of_render_eq (h : s.render = t.render) : s.kind = t.kind ∧ s.pairs = t.pairs := by
  rw [render_eq_elementText, render_eq_elementText] at h
  obtain ⟨helement, hpairs⟩ := Xml.elementText_tag_inj (isName_element s.kind)
    (isName_element t.kind) s.readable_rawAttributes t.readable_rawAttributes
    s.nodup_rawAttributes t.nodup_rawAttributes h
  rw [pair_rawAttributes, pair_rawAttributes] at hpairs
  exact ⟨StatementKind.element_injective helement, hpairs⟩

/-- The text tells the body, up to pieces that are printed alike. -/
theorem body_of_render_eq (h : s.render = t.render) : s.body.print = t.body.print := by
  obtain ⟨hkind, hpairs⟩ := pairs_of_render_eq h
  rw [render_eq_elementText, render_eq_elementText, rawAttributes, rawAttributes, hkind,
    hpairs] at h
  exact Xml.elementText_body_inj h

/-- Two statements have the same text exactly if they agree in kind, id, parameter type, result
type, result map and the text of the body, and have no key or keys with the same property, column
and flag.  Only the namespace and the timing of the key do not show. -/
theorem render_eq_iff :
    s.render = t.render ↔
      s.kind = t.kind ∧ s.id = t.id ∧ s.parameterType? = t.parameterType? ∧
        s.resultType? = t.resultType? ∧ s.resultMap? = t.resultMap? ∧
        s.key?.map KeyInfo.printed = t.key?.map KeyInfo.printed ∧
        s.body.print = t.body.print := by
  constructor
  · intro h
    obtain ⟨hkind, hpairs⟩ := pairs_of_render_eq h
    have hvalues : s.values = t.values := by
      rw [← map_lookup_labels, ← map_lookup_labels, hkind, hpairs]
    simp only [values, List.cons.injEq, Option.some.injEq, and_true] at hvalues
    obtain ⟨hid, hresult, hparameter, hproperty, hcolumn, hflag, hmap⟩ := hvalues
    exact ⟨hkind, hid, hparameter, hresult, hmap, map_printed_inj hproperty hcolumn hflag,
      body_of_render_eq h⟩
  · rintro ⟨hkind, hid, hparameter, hresult, hmap, hkey, hbody⟩
    have hpairs : s.pairs = t.pairs := by
      rw [pairs, pairs, hkind, hid, hparameter, hresult, hmap, keyPairs_congr hkey]
    rw [render_eq_elementText, render_eq_elementText, rawAttributes, rawAttributes, hkind, hpairs,
      hbody]

end Statement

end EntityMapping
