import EntityMapping.Proofs.Xml.Decoding

/-!
# Reading markup

Reading goes character by character through elements with quoted attributes, references to the
predefined entities, and character data.  It gives the tags and the characters between them in
order, with the references in attributes and in the text replaced.  A text cannot be read if a
tag is malformed, an attribute is repeated or not quoted, an attribute value holds an opening
angle bracket, or an ampersand starts no reference to a predefined entity.

Main results:

- `Xml.Reads.append`: texts are read one after the other.
- `Xml.reads_text`, `Xml.reads_cdata`, `Xml.reads_attribute`, `Xml.reads_element`: what the
  pieces of a document give.
-/

namespace EntityMapping.Xml

/-! ## Events -/

/-- What reading gives: the start and the end of an element, and a character of its text. -/
inductive Event
  | opened (name : String) (attributes : List (String × String))
  | closed (name : String)
  | char (c : Char)
deriving DecidableEq, Repr

/-- The characters of a text. -/
def chars (text : String) : List Event := text.toList.map .char

/-- An element with its content. -/
def node (name : String) (attributes : List (String × String)) (content : List Event) :
    List Event := .opened name attributes :: (content ++ [.closed name])

/-- Every element that is opened is closed again, and elements are nested properly. -/
inductive Balanced : List Event → Prop
  | nil : Balanced []
  | char (c : Char) : Balanced [.char c]
  | append {first second : List Event} :
    Balanced first → Balanced second → Balanced (first ++ second)
  | element (name : String) (attributes : List (String × String)) {content : List Event} :
    Balanced content → Balanced (node name attributes content)

/-- Text is balanced. -/
theorem balanced_chars (text : String) : Balanced (chars text) := by
  unfold chars
  induction text.toList with
  | nil => exact .nil
  | cons c rest ih => exact (Balanced.char c).append ih

/-! ## The reader -/

/-- A character of a name. -/
def isNameChar (c : Char) : Bool := c.isAlphanum || c ∈ ['_', '-', '.', ':']

/-- A blank inside a tag. -/
def isSpace (c : Char) : Bool := c ∈ [' ', '\t', '\n', '\r']

/-- A tag as far as it has been read. -/
structure Tag where
  name : String
  attributes : List (String × String)
deriving DecidableEq, Repr

/-- The tag with one more attribute. -/
def Tag.add (t : Tag) (name value : String) : Tag :=
  { t with attributes := t.attributes ++ [(name, value)] }

/-- Where the reader stands: in the text, in a reference, behind an opening angle bracket, in
the start of character data of which a rest is missing, in character data behind some closing
brackets, in an end tag, or in a start tag.  In a start tag it stands in the name, behind a
blank, in the name of an attribute, behind its equals sign, in its value, behind its value, or
behind the slash of an empty element. -/
inductive State
  | content
  | reference (name : List Char)
  | markup
  | declaration (missing : List Char)
  | cdata (brackets : Nat)
  | closing (name : List Char)
  | opening (name : List Char)
  | within (tag : Tag)
  | naming (tag : Tag) (name : List Char)
  | equals (tag : Tag) (name : String)
  | value (tag : Tag) (name : String) (quote : Char) (raw : List Char)
  | behind (tag : Tag)
  | empty (tag : Tag)
deriving DecidableEq, Repr

/-- What may follow a complete part of a start tag: a blank, or the end. -/
def afterPart (t : Tag) (c : Char) : Option (State × List Event) :=
  if isSpace c then some (.within t, [])
  else if c = '/' then some (.empty t, [])
  else if c = '>' then some (.content, [.opened t.name t.attributes])
  else none

/-- What reading one character does. -/
def step : State → Char → Option (State × List Event)
  | .content, c =>
    if c = '<' then some (.markup, [])
    else if c = '&' then some (.reference [], [])
    else some (.content, [.char c])
  | .reference name, c =>
    if c = ';' then (entities.lookup name).map fun d => (.content, [.char d])
    else some (.reference (name ++ [c]), [])
  | .markup, c =>
    if c = '/' then some (.closing [], [])
    else if c = '!' then some (.declaration "[CDATA[".toList, [])
    else if isNameChar c then some (.opening [c], [])
    else none
  | .declaration missing, c =>
    match missing with
    | [] => none
    | [d] => if c = d then some (.cdata 0, []) else none
    | d :: rest => if c = d then some (.declaration rest, []) else none
  | .cdata brackets, c =>
    if c = ']' then
      if brackets = 2 then some (.cdata 2, [.char ']']) else some (.cdata (brackets + 1), [])
    else if c = '>' ∧ brackets = 2 then some (.content, [])
    else some (.cdata 0, List.replicate brackets (.char ']') ++ [.char c])
  | .closing name, c =>
    if isNameChar c then some (.closing (name ++ [c]), [])
    else if c = '>' ∧ name ≠ [] then some (.content, [.closed (String.ofList name)])
    else none
  | .opening name, c =>
    if isNameChar c then some (.opening (name ++ [c]), [])
    else afterPart ⟨String.ofList name, []⟩ c
  | .within t, c => if isNameChar c then some (.naming t [c], []) else afterPart t c
  | .naming t name, c =>
    if isNameChar c then some (.naming t (name ++ [c]), [])
    else if c = '=' ∧ String.ofList name ∉ t.attributes.map Prod.fst then
      some (.equals t (String.ofList name), [])
    else none
  | .equals t name, c => if c = '"' ∨ c = '\'' then some (.value t name c [], []) else none
  | .value t name quote raw, c =>
    if c = quote then (decode raw).map fun v => (.behind (t.add name (String.ofList v)), [])
    else if c = '<' then none
    else some (.value t name quote (raw ++ [c]), [])
  | .behind t, c => afterPart t c
  | .empty t, c =>
    if c = '>' then some (.content, [.opened t.name t.attributes, .closed t.name]) else none

/-- Where the reader stands after a text, and what the text gives. -/
def scan : State → List Char → Option (State × List Event)
  | s, [] => some (s, [])
  | s, c :: rest => (step s c).bind fun (next, events) =>
    (scan next rest).map fun (last, others) => (last, events ++ others)

/-- What a whole text gives, if it can be read to its end. -/
def read? (text : String) : Option (List Event) :=
  match scan .content text.toList with
  | some (.content, events) => some events
  | _ => none

/-! ## Reading in parts -/

variable {s s' s'' : State} {events others : List Event} {t : Tag}

/-- Reading goes on behind the first character. -/
theorem scan_cons {c : Char} (h : step s c = some (s', events)) (rest : List Char) :
    scan s (c :: rest) = (scan s' rest).map fun found => (found.1, events ++ found.2) := by
  rw [scan, h]
  rfl

/-- Reading goes on where it stopped. -/
theorem scan_append {front : List Char} (h : scan s front = some (s', events))
    (back : List Char) :
    scan s (front ++ back) = (scan s' back).map fun found => (found.1, events ++ found.2) := by
  induction front generalizing s events with
  | nil =>
    obtain ⟨rfl, rfl⟩ : s = s' ∧ [] = events := by simpa [scan] using h
    simp
  | cons c front ih =>
    cases hstep : step s c with
    | none => simp [scan, hstep] at h
    | some found =>
      rw [scan_cons hstep] at h
      obtain ⟨⟨last, others⟩, hlast, heq⟩ := Option.map_eq_some_iff.mp h
      cases heq
      rw [List.cons_append, scan_cons hstep, ih hlast, Option.map_map]
      congr 1
      funext x
      simp

/-- From a state the text leads to another state and gives events. -/
def Reads (s : State) (text : String) (s' : State) (events : List Event) : Prop :=
  scan s text.toList = some (s', events)

/-- Nothing is read from an empty text. -/
theorem reads_empty (s : State) : Reads s "" s [] := rfl

/-- Texts are read one after the other. -/
theorem Reads.append {first second : String} (hfirst : Reads s first s' events)
    (hsecond : Reads s' second s'' others) :
    Reads s (first ++ second) s'' (events ++ others) := by
  rw [Reads, String.toList_append, scan_append hfirst, hsecond]
  rfl

/-- A text that is read silently only moves the reader. -/
theorem Reads.move {first second : String} (hfirst : Reads s first s' [])
    (hsecond : Reads s' second s'' others) : Reads s (first ++ second) s'' others :=
  hfirst.append hsecond

/-- A text that is read as content has these events. -/
theorem read?_of_reads {text : String} (h : Reads .content text .content events) :
    read? text = some events := by
  rw [Reads] at h
  simp [read?, h]

/-- Characters that a state collects are read silently. -/
theorem scan_collect (collected : List Char → State) (p : Char → Prop)
    (hstep : ∀ name c, p c → step (collected name) c = some (collected (name ++ [c]), []))
    {cs : List Char} (hcs : ∀ c ∈ cs, p c) (name : List Char) :
    scan (collected name) cs = some (collected (name ++ cs), []) := by
  induction cs generalizing name with
  | nil => simp [scan]
  | cons c rest ih =>
    have hrest := ih (fun d hd => hcs d (List.mem_cons_of_mem c hd)) (name ++ [c])
    rw [scan_cons (hstep name c (hcs c List.mem_cons_self)), hrest]
    simp

/-! ## Text and character data -/

/-- A text without angle brackets and ampersands gives its characters. -/
theorem reads_text {text : String} (h : ∀ c ∈ text.toList, c ≠ '<' ∧ c ≠ '&') :
    Reads .content text .content (chars text) := by
  unfold Reads chars
  generalize text.toList = cs at h ⊢
  induction cs with
  | nil => rfl
  | cons c rest ih =>
    obtain ⟨hangle, hampersand⟩ := h c List.mem_cons_self
    have hrest := ih fun d hd => h d (List.mem_cons_of_mem c hd)
    simp [scan, step, hangle, hampersand, hrest]

/-- Character data without closing brackets gives its characters. -/
theorem reads_cdata {text : String} (h : ∀ c ∈ text.toList, c ≠ ']') :
    Reads .content ("<![CDATA[" ++ text ++ "]]>") .content (chars text) := by
  have hopening : Reads .content "<![CDATA[" (.cdata 0) [] := rfl
  have hclosing : Reads (.cdata 0) "]]>" .content [] := rfl
  have htext : Reads (.cdata 0) text (.cdata 0) (chars text) := by
    unfold Reads chars
    generalize text.toList = cs at h ⊢
    induction cs with
    | nil => rfl
    | cons c rest ih =>
      have hrest := ih fun d hd => h d (List.mem_cons_of_mem c hd)
      simp [scan, step, h c List.mem_cons_self, hrest]
  have hall := (hopening.move htext).append hclosing
  rwa [List.append_nil] at hall

/-! ## Tags -/

/-- A text that can be the name of an element or of an attribute. -/
def IsName (name : String) : Prop := name ≠ "" ∧ ∀ c ∈ name.toList, isNameChar c = true

instance (name : String) : Decidable (IsName name) :=
  decidable_of_iff (name ≠ "" ∧ name.toList.all isNameChar = true)
    (and_congr_right fun _ => List.all_eq_true)

/-- The reader stands behind a complete part of the start tag. -/
def State.Ends (s : State) (t : Tag) : Prop :=
  ∀ c, isNameChar c = false → step s c = afterPart t c

/-- Behind its name a tag may end, without attributes. -/
theorem ends_opening (name : String) : (State.opening name.toList).Ends ⟨name, []⟩ := by
  intro c hc
  simp [step, hc]

/-- Behind an attribute a tag may end. -/
theorem ends_behind (t : Tag) : (State.behind t).Ends t := fun _ _ => rfl

/-- A name has a first character. -/
theorem exists_cons_of_isName {name : String} (h : IsName name) :
    ∃ c rest, name.toList = c :: rest := by
  cases hname : name.toList with
  | nil => exact absurd (String.toList_eq_nil_iff.mp hname) h.1
  | cons c rest => exact ⟨c, rest, rfl⟩

/-- The start of a tag. -/
theorem reads_opening {name : String} (h : IsName name) :
    Reads .content ("<" ++ name) (.opening name.toList) [] := by
  obtain ⟨c, rest, hname⟩ := exists_cons_of_isName h
  have hc : isNameChar c = true := h.2 c (by simp [hname])
  have hrest : ∀ d ∈ rest, isNameChar d = true := fun d hd => h.2 d (by simp [hname, hd])
  have hslash : c ≠ '/' := by
    rintro rfl
    exact absurd hc (by decide)
  have hbang : c ≠ '!' := by
    rintro rfl
    exact absurd hc (by decide)
  have hcollect := scan_collect .opening (isNameChar · = true)
    (fun name c hc => by simp [step, hc]) hrest [c]
  have htext : ("<" ++ name).toList = '<' :: c :: rest := by simp [hname]
  have hangle : step .content '<' = some (.markup, []) := rfl
  have hletter : step .markup c = some (.opening [c], []) := by simp [step, hslash, hbang, hc]
  rw [Reads, htext, hname, scan_cons hangle, scan_cons hletter, hcollect]
  rfl

/-- An end tag. -/
theorem reads_closing {name : String} (h : IsName name) :
    Reads .content ("</" ++ name ++ ">") .content [.closed name] := by
  have hne : name.toList ≠ [] := fun hnil => h.1 (String.toList_eq_nil_iff.mp hnil)
  have hopening : Reads .content "</" (.closing []) [] := rfl
  have hname : Reads (.closing []) name (.closing name.toList) [] :=
    scan_collect .closing (isNameChar · = true)
      (fun name c hc => by simp [step, hc]) h.2 []
  have hend : Reads (.closing name.toList) ">" .content [.closed name] := by
    have hangle : isNameChar '>' = false := by decide
    have hstep : step (.closing name.toList) '>' = some (.content, [.closed name]) := by
      simp [step, hangle, hne]
    exact scan_cons hstep []
  exact (hopening.move hname).move hend

/-- The name of an attribute with its equals sign and an opening quote. -/
theorem reads_attributeName {name : String} (hs : s.Ends t) (hname : IsName name)
    (hnew : name ∉ t.attributes.map Prod.fst) {quote : Char} (hquote : quote = '"' ∨ quote = '\'') :
    Reads s (" " ++ name ++ "=" ++ String.singleton quote) (.value t name quote []) [] := by
  obtain ⟨c, rest, htoList⟩ := exists_cons_of_isName hname
  have hc : isNameChar c = true := hname.2 c (by simp [htoList])
  have hrest : ∀ d ∈ rest, isNameChar d = true := fun d hd => hname.2 d (by simp [htoList, hd])
  have hblank : Reads s " " (.within t) [] := by
    have hstep : step s ' ' = some (.within t, []) := hs ' ' (by decide)
    exact scan_cons hstep []
  have hletters : Reads (.within t) name (.naming t name.toList) [] := by
    have hcollect := scan_collect (.naming t) (isNameChar · = true)
      (fun name c hc => by simp [step, hc]) hrest [c]
    have hletter : step (.within t) c = some (.naming t [c], []) := by simp [step, hc]
    rw [Reads, htoList, scan_cons hletter, hcollect]
    rfl
  have hequals : Reads (.naming t name.toList) "=" (.equals t name) [] := by
    have hsign : isNameChar '=' = false := by decide
    have hstep : step (.naming t name.toList) '=' = some (.equals t name, []) := by
      simp only [step, hsign, String.ofList_toList]
      simp [hnew]
    exact scan_cons hstep []
  have hopening : Reads (.equals t name) (String.singleton quote) (.value t name quote []) [] := by
    simp [Reads, scan, step, hquote]
  exact ((hblank.move hletters).move hequals).move hopening

/-- The value of an attribute with its closing quote. -/
theorem reads_value {name raw value : String} {quote : Char}
    (hraw : ∀ c ∈ raw.toList, c ≠ quote ∧ c ≠ '<')
    (hdecode : decode raw.toList = some value.toList) :
    Reads (.value t name quote []) (raw ++ String.singleton quote) (.behind (t.add name value))
      [] := by
  have hcollect : Reads (.value t name quote []) raw (.value t name quote raw.toList) [] :=
    scan_collect (.value t name quote) (fun c => c ≠ quote ∧ c ≠ '<')
      (fun raw c hc => by simp [step, hc.1, hc.2]) hraw []
  have hclosing : Reads (.value t name quote raw.toList) (String.singleton quote)
      (.behind (t.add name value)) [] := by
    simp [Reads, scan, step, hdecode]
  exact hcollect.move hclosing

/-- An attribute in quotes. -/
theorem reads_attribute {name raw value : String} {quote : Char} (hs : s.Ends t)
    (hname : IsName name) (hnew : name ∉ t.attributes.map Prod.fst)
    (hquote : quote = '"' ∨ quote = '\'') (hraw : ∀ c ∈ raw.toList, c ≠ quote ∧ c ≠ '<')
    (hdecode : decode raw.toList = some value.toList) :
    Reads s (" " ++ name ++ "=" ++ String.singleton quote ++ (raw ++ String.singleton quote))
      (.behind (t.add name value)) [] :=
  (reads_attributeName hs hname hnew hquote).move (reads_value hraw hdecode)

/-- The end of a start tag. -/
theorem State.Ends.reads_end (hs : s.Ends t) :
    Reads s ">" .content [.opened t.name t.attributes] :=
  scan_cons (hs '>' (by decide)) []

/-- The end of an empty element. -/
theorem State.Ends.reads_emptyEnd (hs : s.Ends t) :
    Reads s "/>" .content (node t.name t.attributes []) :=
  scan_cons (hs '/' (by decide)) ['>']

/-- The end of an empty element behind a blank. -/
theorem State.Ends.reads_blankEnd (hs : s.Ends t) :
    Reads s " />" .content (node t.name t.attributes []) :=
  scan_cons (hs ' ' (by decide)) ['/', '>']

/-- An element around its content. -/
theorem reads_element {name front body : String} {attributes : List (String × String)}
    (hname : IsName name) (hfront : Reads .content front s []) (hs : s.Ends ⟨name, attributes⟩)
    (hbody : Reads .content body .content events) :
    Reads .content (front ++ ">" ++ body ++ ("</" ++ name ++ ">")) .content
      (node name attributes events) :=
  ((hfront.move hs.reads_end).append hbody).append (reads_closing hname)

end EntityMapping.Xml
