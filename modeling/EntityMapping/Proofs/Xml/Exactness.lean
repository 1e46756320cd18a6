import EntityMapping.Proofs.Xml.Printing

/-!
# When texts are read back as they are

A text that is printed without being escaped may end the attribute or the text in which it
stands, or start a reference.  Then what is read differs from what was meant, at this place or
by not being readable at all.  Reading an attribute begins with the value that was meant only if
the value has no character with another meaning, and the same holds of a text that is followed
by a fixed character.

Main results:

- `Xml.attributes_exact`: attributes are read as they are only if each of them fits.
- `Xml.elementText_exact`: so it is with the attributes of an element around a text.
- `Xml.State.Lags.step`: a reader that has taken a character with another meaning lags behind
  from there on.
- `Xml.text_exact`: a text is read as it is only if it fits.
-/

namespace EntityMapping

namespace Xml

variable {s s' : State} {t : Tag} {c : Char} {cs rest : List Char} {e : Event}
  {events emitted : List Event}

/-! ## Beginnings -/

/-- Reading from a state begins with these events. -/
def Begins (s : State) (cs : List Char) (events : List Event) : Prop :=
  ∃ last more, scan s cs = some (last, events ++ more)

/-- From no characters no event is read. -/
theorem not_begins_nil : ¬ Begins s [] (e :: events) := by
  rintro ⟨last, more, h⟩
  simp [scan] at h

/-- If something is read, the first character is a step. -/
theorem Begins.exists_step (h : Begins s (c :: rest) events) :
    ∃ s' emitted, step s c = some (s', emitted) := by
  obtain ⟨last, more, h⟩ := h
  cases hstep : step s c with
  | none => simp [scan, hstep] at h
  | some found => exact ⟨found.1, found.2, rfl⟩

/-- What one character gives are the first events. -/
theorem Begins.step (front : List Event) (h : Begins s (c :: rest) (front ++ events))
    (hstep : step s c = some (s', emitted)) (hlength : front.length = emitted.length) :
    front = emitted ∧ Begins s' rest events := by
  obtain ⟨last, more, h⟩ := h
  rw [scan_cons hstep] at h
  obtain ⟨⟨found, others⟩, hscan, heq⟩ := Option.map_eq_some_iff.mp h
  simp only [Prod.mk.injEq, List.append_assoc] at heq
  obtain ⟨rfl, hevents⟩ := heq
  obtain ⟨hfront, hrest⟩ := List.append_inj hevents hlength.symm
  exact ⟨hfront.symm, found, more, hrest ▸ hscan⟩

/-- A step without events leaves all of them to the rest. -/
theorem Begins.silent (h : Begins s (c :: rest) events) (hstep : Xml.step s c = some (s', [])) :
    Begins s' rest events :=
  (Begins.step [] h hstep rfl).2

/-- A step with one event leaves the others to the rest. -/
theorem Begins.single {e' : Event} (h : Begins s (c :: rest) (e :: events))
    (hstep : Xml.step s c = some (s', [e'])) : e = e' ∧ Begins s' rest events := by
  obtain ⟨heq, hrest⟩ := Begins.step [e] h hstep rfl
  exact ⟨List.singleton_inj.mp heq, hrest⟩

/-- Behind a text that has been read, reading begins with the events that are left. -/
theorem Begins.after {text : String} (h : Begins s (text.toList ++ rest) (emitted ++ events))
    (hreads : Reads s text s' emitted) : Begins s' rest events := by
  obtain ⟨last, more, h⟩ := h
  rw [scan_append hreads] at h
  obtain ⟨⟨found, others⟩, hscan, heq⟩ := Option.map_eq_some_iff.mp h
  simp only [Prod.mk.injEq, List.append_assoc, List.append_cancel_left_eq] at heq
  obtain ⟨rfl, rfl⟩ := heq
  exact ⟨found, more, hscan⟩

/-- A text that is read silently only moves the reader. -/
theorem Begins.move {text : String} (h : Begins s (text.toList ++ rest) events)
    (hreads : Reads s text s' []) : Begins s' rest events :=
  h.after hreads

/-! ## Inside tags -/

/-- The reader stands inside a tag. -/
def State.InMarkup : State → Prop
  | .closing _ | .opening _ | .within _ | .naming _ _ | .equals _ _ | .value _ _ _ _ | .behind _
  | .empty _ => True
  | _ => False

/-- Behind the name or the attributes of a tag comes a blank, a slash or its end. -/
theorem afterPart_cases (h : afterPart t c = some (s', emitted)) :
    (s' = .within t ∧ emitted = []) ∨ (s' = .empty t ∧ emitted = []) ∨
      emitted = [.opened t.name t.attributes] := by
  unfold afterPart at h
  split at h
  · cases h
    exact .inl ⟨rfl, rfl⟩
  · split at h
    · cases h
      exact .inr (.inl ⟨rfl, rfl⟩)
    · split at h
      · cases h
        exact .inr (.inr rfl)
      · cases h

/-- The reader stands inside the start tag as far as it has been read, behind its name. -/
def State.IsIn : State → Tag → Prop
  | .within u, t | .naming u _, t | .equals u _, t | .value u _ _ _, t | .behind u, t
  | .empty u, t => u = t
  | _, _ => False

/-- One character inside a start tag: the reader stays inside, perhaps with one more attribute,
or the tag is complete. -/
theorem step_isIn (hs : s.IsIn t) (h : step s c = some (s', emitted)) :
    (emitted = [] ∧ ∃ more, s'.IsIn ⟨t.name, t.attributes ++ more⟩) ∨
      ∃ others, emitted = .opened t.name t.attributes :: others := by
  have hself : t = ⟨t.name, t.attributes ++ []⟩ := by simp
  have hpart : afterPart t c = some (s', emitted) → (emitted = [] ∧
      ∃ more, s'.IsIn ⟨t.name, t.attributes ++ more⟩) ∨
        ∃ others, emitted = .opened t.name t.attributes :: others := by
    intro h
    rcases afterPart_cases h with ⟨rfl, rfl⟩ | ⟨rfl, rfl⟩ | rfl
    · exact .inl ⟨rfl, [], hself⟩
    · exact .inl ⟨rfl, [], hself⟩
    · exact .inr ⟨[], rfl⟩
  cases s with
  | within u =>
    obtain rfl : u = t := hs
    simp only [step] at h
    split at h
    · cases h
      exact .inl ⟨rfl, [], hself⟩
    · exact hpart h
  | naming u name =>
    obtain rfl : u = t := hs
    simp only [step] at h
    split at h
    · cases h
      exact .inl ⟨rfl, [], hself⟩
    · split at h
      · cases h
        exact .inl ⟨rfl, [], hself⟩
      · cases h
  | equals u name =>
    obtain rfl : u = t := hs
    simp only [step] at h
    split at h
    · cases h
      exact .inl ⟨rfl, [], hself⟩
    · cases h
  | value u name quote raw =>
    obtain rfl : u = t := hs
    simp only [step] at h
    split at h
    · obtain ⟨v, _, heq⟩ := Option.map_eq_some_iff.mp h
      cases heq
      exact .inl ⟨rfl, [(name, String.ofList v)], rfl⟩
    · split at h
      · cases h
      · cases h
        exact .inl ⟨rfl, [], hself⟩
  | behind u =>
    obtain rfl : u = t := hs
    exact hpart h
  | empty u =>
    obtain rfl : u = t := hs
    simp only [step] at h
    split at h
    · cases h
      exact .inr ⟨[.closed u.name], rfl⟩
    · cases h
  | _ => cases hs

/-- From inside a start tag the first event is this tag, with the attributes read so far. -/
theorem opened_of_begins (hs : s.IsIn t) (h : Begins s cs (e :: events)) :
    ∃ more, e = .opened t.name (t.attributes ++ more) := by
  induction cs generalizing s t with
  | nil => exact absurd h not_begins_nil
  | cons c rest ih =>
    obtain ⟨s', emitted, hstep⟩ := h.exists_step
    rcases step_isIn hs hstep with ⟨rfl, more, hnext⟩ | ⟨others, rfl⟩
    · obtain ⟨others, rfl⟩ := ih hnext (h.silent hstep)
      exact ⟨more ++ others, by simp⟩
    · obtain ⟨last, more, h⟩ := h
      rw [scan_cons hstep] at h
      obtain ⟨found, _, heq⟩ := Option.map_eq_some_iff.mp h
      simp only [Prod.mk.injEq, List.cons_append, List.cons.injEq] at heq
      exact ⟨[], by simpa using heq.2.1.symm⟩

/-- From inside a tag the first event is no character. -/
theorem not_begins_char (hs : s.InMarkup) : ¬ Begins s cs (.char c :: events) := by
  induction cs generalizing s with
  | nil => exact not_begins_nil
  | cons d rest ih =>
    intro h
    by_cases htag : ∃ t, s.IsIn t
    · obtain ⟨t, ht⟩ := htag
      obtain ⟨more, heq⟩ := opened_of_begins ht h
      cases heq
    · cases s with
      | closing name =>
        obtain ⟨s', emitted, hstep⟩ := h.exists_step
        have hfound := hstep
        simp only [step] at hfound
        split at hfound
        · cases hfound
          refine ih ?_ (h.silent hstep)
          trivial
        · split at hfound
          · cases hfound
            exact absurd (h.single hstep).1 (by simp)
          · cases hfound
      | opening name =>
        obtain ⟨s', emitted, hstep⟩ := h.exists_step
        have hfound := hstep
        simp only [step] at hfound
        split at hfound
        · cases hfound
          refine ih ?_ (h.silent hstep)
          trivial
        · rcases afterPart_cases hfound with ⟨rfl, rfl⟩ | ⟨rfl, rfl⟩ | rfl
          · refine ih ?_ (h.silent hstep)
            trivial
          · refine ih ?_ (h.silent hstep)
            trivial
          · exact absurd (h.single hstep).1 (by simp)
      | within t | naming t _ | equals t _ | value t _ _ _ | behind t | empty t =>
        exact htag ⟨t, rfl⟩
      | _ => cases hs

/-! ## Attributes -/

/-- A closing quote completes an attribute of the tag. -/
theorem value_closes {name : String} {read : List Char}
    (h : Begins (.value t name '"' read) ('"' :: rest) (e :: events)) :
    ∃ v more, decode read = some v ∧
      e = .opened t.name (t.attributes ++ (name, String.ofList v) :: more) := by
  obtain ⟨s', emitted, hstep⟩ := h.exists_step
  have hfound := hstep
  simp only [step, if_true] at hfound
  obtain ⟨v, hdecode, heq⟩ := Option.map_eq_some_iff.mp hfound
  cases heq
  have hin : (State.behind (t.add name (String.ofList v))).IsIn (t.add name (String.ofList v)) :=
    rfl
  obtain ⟨more, rfl⟩ := opened_of_begins hin (h.silent hstep)
  exact ⟨v, more, hdecode, by simp [Tag.add]⟩

/-- What is read as the value ends at the first quote. -/
theorem value_ends {name : String} {read raw : List Char}
    (h : Begins (.value t name '"' read) (raw ++ '"' :: rest) (e :: events)) :
    ∃ front v more, front <+: raw ∧ (∀ c ∈ front, c ≠ '<' ∧ c ≠ '"') ∧
      decode (read ++ front) = some v ∧
        e = .opened t.name (t.attributes ++ (name, String.ofList v) :: more) := by
  induction raw generalizing read with
  | nil =>
    obtain ⟨v, more, hdecode, rfl⟩ := value_closes h
    exact ⟨[], v, more, List.prefix_refl _, by simp, by simpa using hdecode, rfl⟩
  | cons c raw ih =>
    by_cases hquote : c = '"'
    · subst hquote
      obtain ⟨v, more, hdecode, rfl⟩ := value_closes h
      exact ⟨[], v, more, List.nil_prefix, by simp, by simpa using hdecode, rfl⟩
    · have hangle : c ≠ '<' := by
        rintro rfl
        obtain ⟨s', emitted, hstep⟩ := h.exists_step
        simp [step] at hstep
      have hstep : step (.value t name '"' read) c = some (.value t name '"' (read ++ [c]), []) := by
        simp [step, hquote, hangle]
      obtain ⟨front, v, more, hprefix, hfront, hdecode, rfl⟩ := ih (h.silent hstep)
      refine ⟨c :: front, v, more, (List.prefix_cons_inj c).mpr hprefix, ?_, by simpa using hdecode,
        rfl⟩
      intro d hd
      rcases List.mem_cons.mp hd with rfl | hd
      · exact ⟨hangle, hquote⟩
      · exact hfront d hd

/-- A value is read as it is only if it has no character with another meaning. -/
theorem value_exact {name value tagName : String} {others : List (String × String)}
    (h : Begins (.value t name '"' []) (value.toList ++ '"' :: rest)
      (.opened tagName (t.attributes ++ (name, value) :: others) :: events)) :
    Rule.xml.Admits .attribute value := by
  obtain ⟨front, v, more, hprefix, hfront, hdecode, heq⟩ := value_ends h
  have hvalue : v = value.toList := by
    simp only [Event.opened.injEq, List.append_cancel_left_eq, List.cons.injEq, Prod.mk.injEq,
      true_and] at heq
    rw [heq.2.1, String.toList_ofList]
  rw [List.nil_append, hvalue] at hdecode
  -- What is read is no longer than what it is read from.
  have hwhole : front = value.toList :=
    hprefix.eq_of_length_le (length_decodeFrom hdecode)
  rw [hwhole] at hdecode hfront
  have hampersand := plain_of_decode_self hdecode
  refine Rule.xml_attribute_iff.mpr fun c hc => ⟨(hfront c hc).1, ?_, (hfront c hc).2⟩
  rintro rfl
  exact hampersand hc

/-- Attributes are read as they are only if each of them fits. -/
theorem attributes_exact {attributes others : List (String × String)} (hs : s.Ends t)
    (hnames : ∀ a ∈ attributes, IsName a.1)
    (hnodup : (t.attributes.map Prod.fst ++ attributes.map Prod.fst).Nodup)
    (h : Begins s ((attributesText (attributes.map fun a => .plain a.1 a.2)).toList ++ rest)
      (.opened t.name (t.attributes ++ (attributes ++ others)) :: events)) :
    ∀ a ∈ attributes, Rule.xml.Admits .attribute a.2 := by
  induction attributes generalizing s t with
  | nil => simp
  | cons a remaining ih =>
    obtain ⟨name, value⟩ := a
    have hname : IsName name := hnames _ List.mem_cons_self
    have hnew : name ∉ t.attributes.map Prod.fst := by
      intro hmem
      exact (List.nodup_append.mp hnodup).2.2 _ hmem _ List.mem_cons_self rfl
    let front := " " ++ name ++ "=" ++ String.singleton '"'
    let back := attributesText (remaining.map fun a => .plain a.1 a.2)
    have htext : (attributesText (((name, value) :: remaining).map fun a =>
        .plain a.1 a.2)).toList ++ rest =
          front.toList ++ (value.toList ++ '"' :: (back.toList ++ rest)) := by
      simp [attributesText, front, back]
    rw [htext] at h
    have hvalue := h.move (reads_attributeName hs hname hnew (.inl rfl))
    have hadmits : Rule.xml.Admits .attribute value := value_exact hvalue
    have hplain := Rule.xml_attribute_iff.mp hadmits
    have hread : Reads (.value t name '"' []) (value ++ String.singleton '"')
        (.behind (t.add name value)) [] :=
      reads_value (fun c hc => ⟨(hplain c hc).2.2, (hplain c hc).1⟩)
        (decode_of_plain fun hmem => (hplain _ hmem).2.1 rfl)
    have hrest : Begins (.behind (t.add name value)) (back.toList ++ rest)
        (.opened t.name ((t.add name value).attributes ++ (remaining ++ others)) :: events) := by
      have hvalue' : Begins (.value t name '"' [])
          ((value ++ String.singleton '"').toList ++ (back.toList ++ rest))
          (.opened t.name ((t.add name value).attributes ++ (remaining ++ others)) :: events) := by
        simpa [Tag.add] using hvalue
      exact hvalue'.move hread
    have hothers := ih (ends_behind (t.add name value))
      (fun b hb => hnames b (List.mem_cons_of_mem _ hb)) (by simpa [Tag.add] using hnodup) hrest
    intro b hb
    rcases List.mem_cons.mp hb with rfl | hb
    · exact hadmits
    · exact hothers b hb

/-- The attributes of a start tag that are printed as they are, before others. -/
theorem startText_exact {name : String} (attributes others : List (String × String))
    (raws : List RawAttribute) (hname : IsName name) (hnames : ∀ a ∈ attributes, IsName a.1)
    (hnodup : (attributes.map Prod.fst).Nodup)
    (h : Begins .content
      ((startText name ((attributes.map fun a => .plain a.1 a.2) ++ raws)).toList ++ rest)
      (.opened name (attributes ++ others) :: events)) :
    ∀ a ∈ attributes, Rule.xml.Admits .attribute a.2 := by
  have htext : (startText name ((attributes.map fun a => .plain a.1 a.2) ++ raws)).toList ++ rest =
      ("<" ++ name).toList ++
        ((attributesText (attributes.map fun a => .plain a.1 a.2)).toList ++
          ((attributesText raws).toList ++ rest)) := by
    simp [attributesText, List.flatMap_map]
  rw [htext] at h
  exact attributes_exact (ends_opening name) hnames (by simpa using hnodup)
    (h.move (reads_opening hname))

/-- An element around a text is read as it is only if its attributes that are printed as they
are fit, and reading goes on with the text and the end tag. -/
theorem elementText_exact {name body : String} (attributes : List (String × String))
    (raws : List RawAttribute) {content : List Event} (hname : IsName name)
    (hnames : ∀ a ∈ attributes, IsName a.1) (hraws : ∀ raw ∈ raws, raw.Readable)
    (hnodup : (attributes.map Prod.fst ++ raws.map (·.name)).Nodup)
    (h : Begins .content
      ((elementText name ((attributes.map fun a => .plain a.1 a.2) ++ raws) body).toList ++ rest)
      (node name (attributes ++ raws.map RawAttribute.pair) content ++ events)) :
    (∀ a ∈ attributes, Rule.xml.Admits .attribute a.2) ∧
      ∃ rest', Begins .content (body.toList ++ '<' :: '/' :: rest')
        (content ++ .closed name :: events) := by
  let raws' := (attributes.map fun a => RawAttribute.plain a.1 a.2) ++ raws
  have htext : (elementText name raws' body).toList ++ rest =
      (startText name raws').toList ++
        ('>' :: (body.toList ++ '<' :: '/' :: (name.toList ++ '>' :: rest))) := by
    simp
  have hevents : node name (attributes ++ raws.map RawAttribute.pair) content ++ events =
      .opened name (attributes ++ raws.map RawAttribute.pair) ::
        (content ++ .closed name :: events) := by
    simp [node]
  rw [htext, hevents] at h
  have hfit := startText_exact _ _ _ hname hnames (List.nodup_append.mp hnodup).1 h
  refine ⟨hfit, name.toList ++ '>' :: rest, ?_⟩
  have hreadable : ∀ raw ∈ raws', raw.Readable := by
    intro raw hraw
    rcases List.mem_append.mp hraw with hraw | hraw
    · obtain ⟨a, ha, rfl⟩ := List.mem_map.mp hraw
      exact RawAttribute.readable_plain (hnames a ha) (Rule.xml_attribute_iff.mp (hfit a ha))
    · exact hraws raw hraw
  have hpairs : raws'.map RawAttribute.pair = attributes ++ raws.map RawAttribute.pair := by
    simp [raws', Function.comp_def]
  obtain ⟨s, hstart, hs⟩ := reads_startText hname hreadable
    (by simpa [raws', Function.comp_def] using hnodup)
  rw [hpairs] at hs
  exact (h.move hstart).single (hs '>' (by decide)) |>.2

/-! ## Texts -/

/-- The reader has taken characters of a text that it has not given yet. -/
def State.Lags : State → List Char → Prop
  | .cdata brackets, word => brackets < word.length
  | .declaration missing, word => word ≠ [] ∧ missing <:+ "[CDATA[".toList
  | _, word => word ≠ []

/-- A character that stands in no reference and in no start of character data. -/
def isMark (x : Char) : Bool := x ∈ [' ', '/']

variable {word : List Char} {x : Char}

/-- What a reader lags behind is never empty. -/
theorem State.Lags.ne_nil (h : s.Lags word) : word ≠ [] := by
  cases s with
  | cdata brackets => exact List.ne_nil_of_length_pos (Nat.zero_lt_of_lt h)
  | declaration missing => exact h.1
  | _ => exact h

/-- No mark and no angle bracket stands in the start of character data. -/
theorem plain_of_mem_start (h : x ∈ "[CDATA[".toList) : isMark x = false ∧ x ≠ '<' := by
  have hplain := List.all_eq_true.mp
    (by decide : "[CDATA[".toList.all (fun x => !isMark x && x != '<') = true) x h
  simpa using hplain

/-- A mark differs from every character that is none. -/
theorem ne_of_isMark {d : Char} (hx : isMark x = true) (hd : isMark d = false) : d ≠ x := by
  rintro rfl
  rw [hx] at hd
  cases hd

/-- No predefined entity has a name with a mark or an angle bracket. -/
theorem not_begins_reference {name : List Char} (hx : isMark x = true ∨ x = '<')
    (hmem : x ∈ name) : ¬ Begins (.reference name) cs (e :: events) := by
  induction cs generalizing name with
  | nil => exact not_begins_nil
  | cons c rest ih =>
    intro h
    by_cases hc : c = ';'
    · obtain ⟨s', emitted, hstep⟩ := h.exists_step
      simp only [step, hc, if_true] at hstep
      obtain ⟨d, hlookup, _⟩ := Option.map_eq_some_iff.mp hstep
      obtain ⟨before, after, hentities, _⟩ := List.lookup_eq_some_iff.mp hlookup
      have hplain := List.all_eq_true.mp (List.all_eq_true.mp
        (by decide : entities.all (fun entry => entry.1.all fun x => !isMark x && x != '<') = true)
        (name, d) (by simp [hentities])) x hmem
      rcases hx with hx | rfl
      · simp [hx] at hplain
      · simp at hplain
    · have hstep : step (.reference name) c = some (.reference (name ++ [c]), []) := by
        simp [step, hc]
      exact ih (List.mem_append_left _ hmem) (h.silent hstep)

/-- What one character gives are the first characters of the word that the reader lags behind. -/
theorem Begins.takes (h : Begins s (c :: rest) (word.map .char ++ events)) (taken : List Char)
    (hlength : taken.length ≤ word.length)
    (hstep : Xml.step s c = some (s', taken.map .char)) :
    ∃ left, word = taken ++ left ∧ Begins s' rest (left.map .char ++ events) := by
  rw [← List.take_append_drop taken.length word, List.map_append, List.append_assoc] at h
  obtain ⟨htaken, hrest⟩ := Begins.step _ h hstep (by simp [hlength])
  have hfront : word.take taken.length = taken :=
    List.map_injective_iff.mpr (fun _ _ heq => Event.char.inj heq) htaken
  refine ⟨word.drop taken.length, ?_, hrest⟩
  conv_lhs => rw [← List.take_append_drop taken.length word, hfront]

/-- The reader still lags behind when it has taken the character `c`, which is not the mark `x`,
and the word that it lags behind is still without the mark. -/
def LagsOn (x c : Char) (rest : List Char) (events : List Event) : Prop :=
  c ≠ x ∧ ∃ s word, State.Lags s word ∧ x ∉ word ∧ Begins s rest (word.map .char ++ events)

/-- The character that has been taken is one more to be given, behind what is left of the word. -/
theorem LagsOn.of_left {taken left : List Char} (hword : x ∉ word) (hleft : word = taken ++ left)
    (hcx : c ≠ x) (hlags : s.Lags (left ++ [c]))
    (hrest : Begins s rest (left.map .char ++ .char c :: events)) : LagsOn x c rest events := by
  subst hleft
  refine ⟨hcx, s, left ++ [c], hlags, ?_, by simpa using hrest⟩
  rw [List.mem_append, not_or] at hword ⊢
  exact ⟨hword.2, fun hmem => hcx (List.mem_singleton.mp hmem).symm⟩

/-- A character that is taken silently makes the word longer. -/
theorem LagsOn.of_silent (hword : x ∉ word)
    (h : Begins s (c :: rest) (word.map .char ++ .char c :: events))
    (hstep : step s c = some (s', [])) (hcx : c ≠ x) (hlags : s'.Lags (word ++ [c])) :
    LagsOn x c rest events :=
  .of_left hword (List.nil_append word).symm hcx hlags (h.silent hstep)

/-- A reader that lags behind does not get inside a tag, where no character is given. -/
theorem not_begins_in_markup (hne : word ≠ []) (hs : s.InMarkup) :
    ¬ Begins s rest (word.map .char ++ events) := by
  obtain ⟨d, others, rfl⟩ := List.exists_cons_of_ne_nil hne
  exact not_begins_char hs

/-- In content a reader that lags behind takes no mark and lags behind still. -/
theorem lagsOn_content (hx : isMark x = true) (hne : word ≠ []) (hword : x ∉ word)
    (h : Begins .content (c :: rest) (word.map .char ++ .char c :: events)) :
    LagsOn x c rest events := by
  by_cases hangle : c = '<'
  · subst hangle
    exact .of_silent hword h rfl (ne_of_isMark hx (by decide))
      (show State.markup.Lags (word ++ ['<']) from List.append_ne_nil_of_left_ne_nil hne _)
  · by_cases hampersand : c = '&'
    · subst hampersand
      exact .of_silent hword h rfl (ne_of_isMark hx (by decide))
        (show (State.reference []).Lags _ from List.append_ne_nil_of_left_ne_nil hne _)
    · have hstep : step .content c = some (.content, [c].map .char) := by
        simp [step, hangle, hampersand]
      obtain ⟨left, hleft, hrest⟩ := h.takes [c] (List.length_pos_of_ne_nil hne) hstep
      refine .of_left hword hleft ?_ (by simp [State.Lags]) hrest
      rintro rfl
      exact hword (by simp [hleft])

/-- So does a reader inside a reference. -/
theorem lagsOn_reference {name : List Char} (hx : isMark x = true) (hne : word ≠ [])
    (hword : x ∉ word)
    (h : Begins (.reference name) (c :: rest) (word.map .char ++ .char c :: events)) :
    LagsOn x c rest events := by
  by_cases hc : c = ';'
  · subst hc
    obtain ⟨s', emitted, hstep⟩ := h.exists_step
    simp only [step, if_true] at hstep
    obtain ⟨d, hlookup, _⟩ := Option.map_eq_some_iff.mp hstep
    have hstep : step (.reference name) ';' = some (.content, [d].map .char) := by
      simp [step, hlookup]
    obtain ⟨left, hleft, hrest⟩ := h.takes [d] (List.length_pos_of_ne_nil hne) hstep
    exact .of_left hword hleft (ne_of_isMark hx (by decide)) (by simp [State.Lags]) hrest
  · have hstep : step (.reference name) c = some (.reference (name ++ [c]), []) := by
      simp [step, hc]
    refine .of_silent hword h hstep ?_ (List.append_ne_nil_of_left_ne_nil hne _)
    rintro rfl
    obtain ⟨d, others, rfl⟩ := List.exists_cons_of_ne_nil hne
    exact not_begins_reference (.inl hx) (by simp) (h.silent hstep)

/-- So does a reader behind an opening angle. -/
theorem lagsOn_markup (hx : isMark x = true) (hne : word ≠ []) (hword : x ∉ word)
    (h : Begins .markup (c :: rest) (word.map .char ++ .char c :: events)) :
    LagsOn x c rest events := by
  by_cases hslash : c = '/'
  · subst hslash
    have hin : (State.closing []).InMarkup := trivial
    exact absurd (h.silent rfl) (not_begins_in_markup hne hin)
  · by_cases hbang : c = '!'
    · subst hbang
      have hlags : (State.declaration "[CDATA[".toList).Lags (word ++ ['!']) :=
        ⟨List.append_ne_nil_of_left_ne_nil hne _, List.suffix_refl _⟩
      exact .of_silent hword h rfl (ne_of_isMark hx (by decide)) hlags
    · by_cases hname : isNameChar c = true
      · have hstep : step .markup c = some (.opening [c], []) := by
          simp [step, hslash, hbang, hname]
        have hin : (State.opening [c]).InMarkup := trivial
        exact absurd (h.silent hstep) (not_begins_in_markup hne hin)
      · obtain ⟨s', emitted, hstep⟩ := h.exists_step
        simp [step, hslash, hbang, hname] at hstep

/-- So does a reader where unparsed text is declared. -/
theorem lagsOn_declaration {missing : List Char} (hx : isMark x = true)
    (hs : (State.declaration missing).Lags word) (hword : x ∉ word)
    (h : Begins (.declaration missing) (c :: rest) (word.map .char ++ .char c :: events)) :
    LagsOn x c rest events := by
  obtain ⟨hne, hsuffix⟩ := hs
  have hmark : ∀ d ∈ missing, d ≠ x := fun d hd =>
    ne_of_isMark hx (plain_of_mem_start (hsuffix.subset hd)).1
  obtain ⟨s', emitted, hstep⟩ := h.exists_step
  rcases missing with _ | ⟨d, missing⟩
  · cases hstep
  · have hc : c = d := by
      by_contra hc
      cases missing <;> simp [step, hc] at hstep
    subst hc
    have hcx := hmark c List.mem_cons_self
    rcases missing with _ | ⟨next, missing⟩
    · have hstep : step (.declaration [c]) c = some (.cdata 0, []) := by simp [step]
      exact .of_silent hword h hstep hcx (by simp [State.Lags])
    · have hstep : step (.declaration (c :: next :: missing)) c =
          some (.declaration (next :: missing), []) := by simp [step]
      have hlags : (State.declaration (next :: missing)).Lags (word ++ [c]) :=
        ⟨List.append_ne_nil_of_left_ne_nil hne _, (List.suffix_cons c _).trans hsuffix⟩
      exact .of_silent hword h hstep hcx hlags

/-- So does a reader in unparsed text, whose closing brackets may be text themselves. -/
theorem lagsOn_cdata {brackets : Nat} (hx : isMark x = true) (hlength : brackets < word.length)
    (hword : x ∉ word)
    (h : Begins (.cdata brackets) (c :: rest) (word.map .char ++ .char c :: events)) :
    LagsOn x c rest events := by
  by_cases hbracket : c = ']'
  · subst hbracket
    have hcx : ']' ≠ x := ne_of_isMark hx (by decide)
    by_cases htwo : brackets = 2
    · subst htwo
      have hstep : step (.cdata 2) ']' = some (.cdata 2, [']'].map .char) := rfl
      obtain ⟨left, hleft, hrest⟩ := h.takes [']'] (Nat.one_le_of_lt hlength) hstep
      have hlags : (State.cdata 2).Lags (left ++ [']']) := by
        simp only [hleft, List.length_append, List.length_singleton] at hlength
        simp only [State.Lags, List.length_append, List.length_singleton]
        omega
      exact .of_left hword hleft hcx hlags hrest
    · have hstep : step (.cdata brackets) ']' = some (.cdata (brackets + 1), []) := by
        simp [step, htwo]
      have hlags : (State.cdata (brackets + 1)).Lags (word ++ [']']) := by
        simp only [State.Lags, List.length_append, List.length_singleton]
        omega
      exact .of_silent hword h hstep hcx hlags
  · by_cases hclosing : c = '>' ∧ brackets = 2
    · obtain ⟨rfl, rfl⟩ := hclosing
      exact .of_silent hword h rfl (ne_of_isMark hx (by decide))
        (show State.content.Lags _ by simp [State.Lags])
    · have hstep : step (.cdata brackets) c =
          some (.cdata 0, (List.replicate brackets ']' ++ [c]).map .char) := by
        simp [step, hbracket, hclosing]
      obtain ⟨left, hleft, hrest⟩ := h.takes (List.replicate brackets ']' ++ [c])
        (by simpa using Nat.succ_le_of_lt hlength) hstep
      refine .of_left hword hleft ?_ (by simp [State.Lags]) hrest
      rintro rfl
      exact hword (by simp [hleft])

/-- A reader that lags behind does so with every further character of the text, and it never
takes a mark that is not in the word. -/
theorem State.Lags.step (hs : s.Lags word) (hx : isMark x = true) (hword : x ∉ word)
    (h : Begins s (c :: rest) (word.map .char ++ .char c :: events)) : LagsOn x c rest events := by
  cases s with
  | content => exact lagsOn_content hx hs hword h
  | reference name => exact lagsOn_reference hx hs hword h
  | markup => exact lagsOn_markup hx hs hword h
  | declaration missing => exact lagsOn_declaration hx hs hword h
  | cdata brackets => exact lagsOn_cdata hx hs hword h
  | closing _ | opening _ | within _ | naming _ _ | equals _ _ | value _ _ _ _ | behind _
  | empty _ => exact absurd h (not_begins_in_markup hs.ne_nil trivial)

/-- A reader that lags behind never catches up, if it does not do so at what follows the text. -/
theorem not_begins_of_lags (hx : isMark x = true) {tail : List Char}
    (hend : ∀ s word, s.Lags word → x ∉ word → ¬ Begins s tail (word.map .char ++ events))
    (text : List Char) (hs : s.Lags word) (hword : x ∉ word) :
    ¬ Begins s (text ++ tail) (word.map .char ++ (text.map .char ++ events)) := by
  induction text generalizing s word with
  | nil => exact hend s word hs hword
  | cons c text ih =>
    intro h
    obtain ⟨_, s', word', hs', hword', hrest⟩ := hs.step hx hword h
    exact ih hs' hword' hrest

/-- A mark in the text that follows stops a reader that lags behind. -/
theorem not_begins_at_mark (hx : isMark x = true) (hs : s.Lags word) (hword : x ∉ word) :
    ¬ Begins s (x :: rest) (word.map .char ++ .char x :: events) :=
  fun h => (hs.step hx hword h).1 rfl

/-- The end tag of the element stops a reader that lags behind. -/
theorem not_begins_at_closing {name : String} (hs : s.Lags word) (hword : '/' ∉ word) :
    ¬ Begins s ('<' :: '/' :: rest) (word.map .char ++ .closed name :: events) := by
  intro h
  have hne := hs.ne_nil
  cases s with
  | content =>
    have hmarkup : Begins .markup ('/' :: rest) _ := h.silent rfl
    have hclosing : Begins (.closing []) rest _ := hmarkup.silent rfl
    have hin : (State.closing []).InMarkup := trivial
    exact not_begins_in_markup hne hin hclosing
  | reference entity =>
    obtain ⟨d, others, rfl⟩ := List.exists_cons_of_ne_nil hne
    have hstep : step (.reference entity) '<' = some (.reference (entity ++ ['<']), []) := rfl
    exact not_begins_reference (.inr rfl) (by simp) (h.silent hstep)
  | markup =>
    obtain ⟨s', emitted, hstep⟩ := h.exists_step
    cases hstep
  | declaration missing =>
    obtain ⟨s', emitted, hstep⟩ := h.exists_step
    rcases missing with _ | ⟨next, missing⟩
    · cases hstep
    · have hnext : next ≠ '<' := (plain_of_mem_start (hs.2.subset List.mem_cons_self)).2
      cases missing <;> simp [step, hnext.symm] at hstep
  | cdata brackets =>
    have hstep : step (.cdata brackets) '<' =
        some (.cdata 0, (List.replicate brackets ']' ++ ['<']).map .char) := by
      simp [step]
    obtain ⟨left, hleft, hrest⟩ := h.takes (List.replicate brackets ']' ++ ['<'])
      (by simpa using Nat.succ_le_of_lt hs) hstep
    have hslash : step (.cdata 0) '/' = some (.cdata 0, [.char '/']) := rfl
    -- What is given for the slash is a character of the word or the end of the element.
    cases left with
    | nil => exact absurd (hrest.single hslash).1 (by simp)
    | cons d left =>
      have heq : d = '/' := by simpa using (hrest.single hslash).1
      exact hword (by simp [hleft, heq])
  | closing _ | opening _ | within _ | naming _ _ | equals _ _ | value _ _ _ _ | behind _
  | empty _ => exact absurd h (not_begins_in_markup hne trivial)

/-- A text is read as it is only if it has no character with another meaning, if what follows
stops every reader that lags behind. -/
theorem text_exact (hx : isMark x = true) {text tail : List Char}
    (hend : ∀ s word, s.Lags word → x ∉ word → ¬ Begins s tail (word.map .char ++ events))
    (h : Begins .content (text ++ tail) (text.map .char ++ events)) :
    ∀ c ∈ text, c ≠ '<' ∧ c ≠ '&' := by
  induction text with
  | nil => simp
  | cons c text ih =>
    -- The first such character would leave the reader behind.
    have hlate : ∀ s' : State, step .content c = some (s', []) → s'.Lags [c] → x ≠ c → False := by
      intro s' hstep hlags hxc
      exact not_begins_of_lags hx hend text hlags (by simpa using hxc) (h.silent hstep)
    have hangle : c ≠ '<' := by
      rintro rfl
      exact hlate .markup rfl (by simp [State.Lags]) (ne_of_isMark hx (by decide)).symm
    have hampersand : c ≠ '&' := by
      rintro rfl
      exact hlate (.reference []) rfl (by simp [State.Lags]) (ne_of_isMark hx (by decide)).symm
    have hstep : step .content c = some (.content, [.char c]) := by
      simp [step, hangle, hampersand]
    intro d hd
    rcases List.mem_cons.mp hd with rfl | hd
    · exact ⟨hangle, hampersand⟩
    · exact ih (h.single hstep).2 d hd

end Xml

end EntityMapping
