import EntityMapping.Proofs.Xml.Printing

/-!
# Elements read as templates

The elements of the mapper language and the references in the text between them are read into a
template.  The reader knows nothing of how a statement was put together: it takes the events of a
text one by one, keeps the elements that are open, and refuses an element, an attribute or a
reference of another form.

Definitions:

- `Test.read?`, `Binding.read?`, `Template.reference?`: the expressions in attributes and the
  references in the text.
- `Template.ofTag?`: the template of an element.
- `Template.ofEvents?`, `Template.read?`, `Statement.body?`: the template of events, of a text, and
  of the text of a statement.

Main results:

- `Test.read?_print`, `Binding.read?_pattern`, `Template.reference?_value`: expressions and
  references are read back if their paths are plain.
- `Reader.run_append`, `Reader.run_reference`, `Reader.run_node`: how the reader goes on behind
  what it has read, a reference and an element.
-/

namespace EntityMapping

/-! ## Words -/

/-- The words of a text between its blanks. -/
def blankWords (text : String) : List String := (text.toList.splitOn ' ').map String.ofList

/-- A text without blanks is a word of its own. -/
theorem blankWords_of_lacks {text : String} (h : Lacks ' ' text) : blankWords text = [text] := by
  rw [blankWords, List.splitOn_eq_singleton h, List.map_singleton, String.ofList_toList]

/-- A word in front of a blank is the first one. -/
theorem blankWords_append {first : String} (h : Lacks ' ' first) (rest : String) :
    blankWords (first ++ " " ++ rest) = first :: blankWords rest := by
  have htoList : (first ++ " " ++ rest).toList = first.toList ++ ' ' :: rest.toList := by
    simp
  rw [blankWords, htoList, List.splitOn_append_cons_self_of_not_mem h, List.map_cons,
    String.ofList_toList, blankWords]

/-! ## Expressions in attributes -/

namespace Test

/-- The paths of a conjunction that says of each that it is not null. -/
def conjuncts? : List String → Option (List String)
  | [path, sign, word] => if sign = "!=" ∧ word = "null" then some [path] else none
  | path :: sign :: word :: connective :: rest =>
    if sign = "!=" ∧ word = "null" ∧ connective = "and" then (conjuncts? rest).map (path :: ·)
    else none
  | _ => none

/-- The test that an attribute holds: a path, or a conjunction. -/
def read? (text : String) : Option Test :=
  match conjuncts? (blankWords text) with
  | some paths => some (.notNull paths)
  | none =>
    match blankWords text with
    | [path] => some (.holds path)
    | _ => none

/-- The words of a conjunction give its paths. -/
theorem conjuncts?_print {path : String} {paths : List String} (hpath : Lacks ' ' path)
    (h : ∀ path ∈ paths, Lacks ' ' path) :
    conjuncts? (blankWords (Test.notNull (path :: paths)).print) = some (path :: paths) := by
  induction paths generalizing path with
  | nil =>
    have htext : (Test.notNull [path]).print = path ++ " " ++ ("!=" ++ " " ++ "null") := by
      apply String.toList_inj.mp
      simp [print]
    rw [htext, blankWords_append hpath, blankWords_append (by decide),
      blankWords_of_lacks (by decide)]
    rfl
  | cons next rest ih =>
    have hnext := h next List.mem_cons_self
    have hrest := ih hnext fun other hother => h other (List.mem_cons_of_mem next hother)
    have htext : (Test.notNull (path :: next :: rest)).print =
        path ++ " " ++ ("!=" ++ " " ++ ("null" ++ " " ++ ("and" ++ " " ++
          (Test.notNull (next :: rest)).print))) := by
      apply String.toList_inj.mp
      simp [print]
    rw [htext, blankWords_append hpath, blankWords_append (by decide),
      blankWords_append (by decide), blankWords_append (by decide), conjuncts?, hrest]
    rfl

/-- A test whose paths have no blanks is read back. -/
theorem read?_print {test : Test} (hsome : test.paths ≠ [])
    (h : ∀ path ∈ test.paths, Lacks ' ' path) : read? test.print = some test := by
  cases test with
  | holds path =>
    have hwords := blankWords_of_lacks (h path List.mem_cons_self)
    rw [read?, print, hwords]
    rfl
  | notNull paths =>
    rcases List.exists_cons_of_ne_nil hsome with ⟨path, rest, rfl⟩
    have hrest : ∀ path ∈ rest, Lacks ' ' path := fun other hother =>
      h other (List.mem_cons_of_mem path hother)
    rw [read?, conjuncts?_print (h path List.mem_cons_self) hrest]

end Test

namespace Binding

/-- The wildcard of a pattern, as a literal. -/
def wildcard : String := "'%'"

/-- The binding that an attribute holds: a map of columns, or a path with a wildcard in front of it
or behind it. -/
def read? (text : String) : Option Binding :=
  match readMap text.toList with
  | some entries => some (.columns entries)
  | none =>
    match blankWords text with
    | [path] => some (.pattern false path false)
    | [first, sign, last] =>
      if sign ≠ "+" then none
      else if first = wildcard then some (.pattern true last false)
      else if last = wildcard then some (.pattern false first true)
      else none
    | [first, sign, path, secondSign, last] =>
      if sign = "+" ∧ secondSign = "+" ∧ first = wildcard ∧ last = wildcard then
        some (.pattern true path true)
      else none
    | _ => none

/-- A text that does not begin as a map is none. -/
theorem readMap_of_head? {text : List Char} (h : text.head? ≠ some '#') : readMap text = none := by
  cases text with
  | nil => rfl
  | cons c rest =>
    rcases List.exists_cons_of_ne_nil (List.splitOn_ne_nil '\'' rest) with ⟨first, pieces, hrest⟩
    have hc : c ≠ '#' := fun heq => h (by rw [heq]; rfl)
    by_cases hquote : c = '\''
    · simp [readMap, List.splitOn_cons_eq_if_modifyHead, hquote]
    · simp [readMap, List.splitOn_cons_eq_if_modifyHead, hquote, hrest, hc]

/-- The words of a pattern. -/
theorem words_pattern {path : String} (h : Lacks ' ' path) (leading trailing : Bool) :
    blankWords (Binding.pattern leading path trailing).text =
      (if leading then [wildcard, "+"] else []) ++ [path] ++
        if trailing then ["+", wildcard] else [] := by
  have hback : ∀ trailing : Bool, blankWords (path ++ if trailing then " + '%'" else "") =
      path :: if trailing then ["+", wildcard] else [] := by
    intro trailing
    cases trailing with
    | false => simp [blankWords_of_lacks h]
    | true =>
      have htext : path ++ " + '%'" = path ++ " " ++ "+ '%'" := by
        apply String.toList_inj.mp
        simp
      have hsign : blankWords "+ '%'" = ["+", wildcard] := by decide
      rw [if_pos rfl, htext, blankWords_append h, hsign]
      rfl
  cases leading with
  | false => simpa [Binding.text] using hback trailing
  | true =>
    have htext : (Binding.pattern true path trailing).text =
        wildcard ++ " " ++ ("+" ++ " " ++ (path ++ if trailing then " + '%'" else "")) := by
      apply String.toList_inj.mp
      simp [Binding.text, wildcard]
    rw [htext, blankWords_append (by decide), blankWords_append (by decide), hback]
    rfl

/-- A pattern is read back if its path has neither blanks nor quotes and does not begin as a map. -/
theorem read?_pattern {path : String} (hblank : Lacks ' ' path) (hquote : Lacks '\'' path)
    (hsign : Lacks '#' path) (leading trailing : Bool) :
    read? (Binding.pattern leading path trailing).text =
      some (.pattern leading path trailing) := by
  have hpath : path ≠ wildcard := by
    rintro rfl
    exact absurd hquote (by decide)
  have hhead : (Binding.pattern leading path trailing).text.toList.head? ≠ some '#' := by
    intro hhead
    have hmem : '#' ∈ path.toList ∨ '#' ∈ " + '%'".toList := by
      cases leading <;> cases trailing <;> cases htext : path.toList <;>
        simp_all [Binding.text, Lacks]
    exact hmem.elim hsign (by decide)
  rw [read?, readMap_of_head? hhead, words_pattern hblank]
  cases leading <;> cases trailing <;> simp [hpath]

/-- A map is read back if its entries have no quotes. -/
theorem read?_columns {entries : List (String × String)}
    (h : ∀ e ∈ entries, Lacks '\'' e.1 ∧ Lacks '\'' e.2) :
    read? (Binding.columns entries).text = some (.columns entries) := by
  rw [read?, Template.toList_text_columns, readMap_mapPieces h]

end Binding

/-! ## Names -/

/-- The column type of a name. -/
def JdbcType.ofName? (name : String) : Option JdbcType := all.find? (·.name == name)

/-- The time of a name. -/
def KeyTiming.ofName? (name : String) : Option KeyTiming :=
  [KeyTiming.before, .after].find? (·.name == name)

/-- The setting of a loop of a name. -/
def LoopSetting.ofName? (name : String) : Option LoopSetting :=
  [LoopSetting.collection, .item, .index, .opening, .separator, .closing].find? (·.name == name)

/-- The setting of a trimmed part of a name. -/
def TrimSetting.ofName? (name : String) : Option TrimSetting :=
  [TrimSetting.front, .back, .frontDropped, .backDropped].find? (·.name == name)

@[simp]
theorem JdbcType.ofName?_name (type : JdbcType) : ofName? type.name = some type := by
  cases type <;> decide

@[simp]
theorem KeyTiming.ofName?_name (timing : KeyTiming) : ofName? timing.name = some timing := by
  cases timing <;> decide

@[simp]
theorem LoopSetting.ofName?_name (setting : LoopSetting) : ofName? setting.name = some setting := by
  cases setting <;> decide

@[simp]
theorem TrimSetting.ofName?_name (setting : TrimSetting) : ofName? setting.name = some setting := by
  cases setting <;> decide

/-! ## References in the text -/

/-- The type that an option of a reference names. -/
def JdbcType.option? (option : String) : Option JdbcType :=
  match option.toList.splitOn '=' with
  | [key, name] =>
    if key = "jdbcType".toList then JdbcType.ofName? (String.ofList name) else none
  | _ => none

/-- The option of a type is read back. -/
theorem JdbcType.option?_name (type : JdbcType) :
    option? ("jdbcType=" ++ type.name) = some type := by
  cases type <;> decide

namespace Template

/-- The reference with a sign in front of its braces and a text between them.  The text behind a
comma is an option. -/
def reference? (sign : Char) (content : String) : Option Template :=
  if sign = '$' then some (.splice content)
  else
    match content.toList.splitOn ',' with
    | [path] => some (.value (String.ofList path) none)
    | [path, option] =>
      (JdbcType.option? (String.ofList option)).map fun type =>
        .value (String.ofList path) (some type)
    | _ => none

/-- What stands between the braces of a bound value. -/
def referenceText (path : String) : Option JdbcType → String
  | some type => path ++ "," ++ ("jdbcType=" ++ type.name)
  | none => path

/-- A bound value is read back if its path has no commas. -/
theorem reference?_value {path : String} (h : Lacks ',' path) (type? : Option JdbcType) :
    reference? '#' (referenceText path type?) = some (.value path type?) := by
  cases type? with
  | none => simp [reference?, referenceText, List.splitOn_eq_singleton h]
  | some type =>
    have hname : Lacks ',' ("jdbcType=" ++ type.name) := by cases type <;> decide
    have htoList : (referenceText path (some type)).toList =
        path.toList ++ ',' :: ("jdbcType=" ++ type.name).toList := by
      simp [referenceText]
    rw [reference?, if_neg (by decide), htoList, List.splitOn_append_cons_self_of_not_mem h,
      List.splitOn_eq_singleton hname]
    simp only [String.ofList_toList, JdbcType.option?_name, Option.map_some]

/-! ## Elements -/

/-- The settings that the attributes of an element give. -/
def settings? {α : Type} (ofName? : String → Option α) (attributes : List (String × String)) :
    Option (List (α × String)) :=
  attributes.mapM fun a => (ofName? a.1).map fun setting => (setting, a.2)

/-- Settings are read back from their names. -/
theorem settings?_map {α : Type} {ofName? : String → Option α} {name : α → String}
    (h : ∀ setting, ofName? (name setting) = some setting) (settings : List (α × String)) :
    settings? ofName? (settings.map fun setting => (name setting.1, setting.2)) =
      some settings := by
  induction settings with
  | nil => rfl
  | cons setting rest ih =>
    rw [settings?] at ih ⊢
    rw [List.map_cons, List.mapM_cons, ih, h]
    rfl

/-- The template of an element around a template. -/
def ofTag? (tag : Xml.Tag) (body : Template) : Option Template :=
  match tag.name, tag.attributes with
  | "if", [("test", test)] => (Test.read? test).map fun test => .guard test body
  | "when", [("test", test)] => (Test.read? test).map fun test => .branch test body
  | "foreach", attributes =>
    (settings? LoopSetting.ofName? attributes).map fun settings => .loop settings body
  | "trim", attributes =>
    (settings? TrimSetting.ofName? attributes).map fun settings => .trim settings body
  | "where", [] => some (.whereClause body)
  | "set", [] => some (.setClause body)
  | "choose", [] => some (.choose body)
  | "bind", [("name", name), ("value", expression)] =>
    if body = .empty then (Binding.read? expression).map fun binding => .bind name binding else none
  | "include", [("refid", id)] => if body = .empty then some (.fragment id) else none
  | "selectKey", [("keyProperty", property), ("keyColumn", column), ("order", order),
      ("resultType", typeName)] =>
    (KeyTiming.ofName? order).map fun timing => .selectKey property column timing typeName body
  | "id", [("property", property), ("column", column), ("jdbcType", typeName)] =>
    if body = .empty then (JdbcType.ofName? typeName).map (.result true property column) else none
  | "result", [("property", property), ("column", column), ("jdbcType", typeName)] =>
    if body = .empty then (JdbcType.ofName? typeName).map (.result false property column) else none
  | "association", [("property", property)] => some (.association property body)
  | _, _ => none

end Template

/-! ## Reading events -/

/-- Where a text stands that is being read: in the SQL, behind the sign of a reference, or between
the braces of one. -/
inductive Lead
  | plain
  | marked (sign : Char)
  | inside (sign : Char) (content : List Char)
deriving DecidableEq, Repr

/-- What has been read: the elements that are open, the innermost first, each with what stands in
front of it; the template in the innermost one; and the reference that has begun. -/
structure Reader where
  around : List (Xml.Tag × Template)
  before : Template
  lead : Lead

/-- Whether a character may begin a reference. -/
def isMark (c : Char) : Bool := c ∈ ['#', '$']

namespace Reader

variable {r : Reader} {around : List (Xml.Tag × Template)} {front t : Template}

/-- A character as a piece of SQL. -/
def letter (c : Char) : Template := .text (String.singleton c)

/-- The reader behind a further piece. -/
def put (r : Reader) (t : Template) : Reader := { r with before := r.before ++ t, lead := .plain }

/-- Reading a character.  A sign without braces is a piece of SQL. -/
def char (r : Reader) (c : Char) : Option Reader :=
  match r.lead with
  | .plain => some (if isMark c then { r with lead := .marked c } else r.put (letter c))
  | .marked sign =>
    if c = '\x7b' then some { r with lead := .inside sign [] }
    else if isMark c then some { r.put (letter sign) with lead := .marked c }
    else some ((r.put (letter sign)).put (letter c))
  | .inside sign content =>
    if c = '\x7d' then (Template.reference? sign (String.ofList content)).map r.put
    else some { r with lead := .inside sign (content ++ [c]) }

/-- The template in the innermost element at a tag.  A tag does not stand inside a reference. -/
def settle (r : Reader) : Option Template :=
  match r.lead with
  | .plain => some r.before
  | .marked sign => some (r.before ++ letter sign)
  | .inside _ _ => none

/-- Reading an event. -/
def step (r : Reader) : Xml.Event → Option Reader
  | .char c => r.char c
  | .opened name attributes =>
    r.settle.map fun before => ⟨(⟨name, attributes⟩, before) :: r.around, .empty, .plain⟩
  | .closed name =>
    match r.around with
    | [] => none
    | (tag, before) :: around =>
      if tag.name = name then
        (r.settle.bind (Template.ofTag? tag)).map fun t => ⟨around, before ++ t, .plain⟩
      else none

/-- Reading events from front to back. -/
def run (r : Reader) (events : List Xml.Event) : Option Reader := events.foldlM step r

/-- Events are read one part after the other. -/
theorem run_append (r : Reader) (first second : List Xml.Event) :
    r.run (first ++ second) = (r.run first).bind (·.run second) := List.foldlM_append

/-- A template, followed by the characters of a text. -/
def spell (front : Template) (sql : String) : Template :=
  sql.toList.foldl (fun t c => t ++ letter c) front

/-- A text without the signs of references is read character by character. -/
theorem run_chars {sql : String} (h : ∀ c ∈ sql.toList, isMark c = false) :
    run ⟨around, front, .plain⟩ (Xml.chars sql) = some ⟨around, spell front sql, .plain⟩ := by
  unfold Xml.chars spell
  generalize sql.toList = cs at h ⊢
  induction cs generalizing front with
  | nil => rfl
  | cons c rest ih =>
    have hstep : step ⟨around, front, .plain⟩ (.char c) =
        some ⟨around, front ++ letter c, .plain⟩ := by
      simp [step, char, put, h c List.mem_cons_self]
    have hrest := @ih (front ++ letter c) fun d hd => h d (List.mem_cons_of_mem c hd)
    rw [run] at hrest ⊢
    rw [List.map_cons, List.foldlM_cons, hstep, Option.bind_eq_bind, Option.bind_some, hrest,
      List.foldl_cons]

/-- What stands between braces is collected. -/
theorem run_inside {sign : Char} {content : String} (h : Lacks '\x7d' content) :
    run ⟨around, front, .inside sign []⟩ (Xml.chars content) =
      some ⟨around, front, .inside sign content.toList⟩ := by
  have hcollect : ∀ collected cs : List Char, '\x7d' ∉ cs →
      run ⟨around, front, .inside sign collected⟩ (cs.map .char) =
        some ⟨around, front, .inside sign (collected ++ cs)⟩ := by
    intro collected cs hcs
    induction cs generalizing collected with
    | nil => simp [run]
    | cons c rest ih =>
      rw [List.mem_cons, not_or] at hcs
      have hstep : step ⟨around, front, .inside sign collected⟩ (.char c) =
          some ⟨around, front, .inside sign (collected ++ [c])⟩ := by
        simp [step, char, Ne.symm hcs.1]
      have hrest := ih (collected ++ [c]) hcs.2
      rw [run] at hrest ⊢
      rw [List.map_cons, List.foldlM_cons, hstep, Option.bind_eq_bind, Option.bind_some, hrest,
        List.append_assoc]
      rfl
  exact hcollect [] content.toList h

/-- A reference is read as the piece that it stands for. -/
theorem run_reference {sign : Char} {content : String} (hsign : isMark sign = true)
    (hcontent : Lacks '\x7d' content) (hread : Template.reference? sign content = some t) :
    run ⟨around, front, .plain⟩
        (Xml.chars (String.singleton sign ++ "\x7b" ++ content ++ "\x7d")) =
      some ⟨around, front ++ t, .plain⟩ := by
  have hevents : Xml.chars (String.singleton sign ++ "\x7b" ++ content ++ "\x7d") =
      [.char sign, .char '\x7b'] ++ (Xml.chars content ++ [.char '\x7d']) := by
    simp [Xml.chars]
  have hopening : run ⟨around, front, .plain⟩ [.char sign, .char '\x7b'] =
      some ⟨around, front, .inside sign []⟩ := by
    simp [run, step, char, hsign]
  have hclosing : run ⟨around, front, .inside sign content.toList⟩ [.char '\x7d'] =
      some ⟨around, front ++ t, .plain⟩ := by
    simp [run, step, char, put, hread]
  rw [hevents, run_append, hopening, Option.bind_some, run_append, run_inside hcontent,
    Option.bind_some, hclosing]

/-- An element is read as the template that its tag makes of its content. -/
theorem run_node {name : String} {attributes : List (String × String)}
    {content : List Xml.Event} {body : Template}
    (hcontent : run ⟨(⟨name, attributes⟩, front) :: around, .empty, .plain⟩ content =
      some ⟨(⟨name, attributes⟩, front) :: around, body, .plain⟩)
    (hread : Template.ofTag? ⟨name, attributes⟩ body = some t) :
    run ⟨around, front, .plain⟩ (Xml.node name attributes content) =
      some ⟨around, front ++ t, .plain⟩ := by
  have hopening : run ⟨around, front, .plain⟩ [.opened name attributes] =
      some ⟨(⟨name, attributes⟩, front) :: around, .empty, .plain⟩ := rfl
  have hclosing : run ⟨(⟨name, attributes⟩, front) :: around, body, .plain⟩ [.closed name] =
      some ⟨around, front ++ t, .plain⟩ := by
    simp [run, step, settle, hread]
  have hevents : Xml.node name attributes content =
      [.opened name attributes] ++ (content ++ [.closed name]) := rfl
  rw [hevents, run_append, hopening, Option.bind_some, run_append, hcontent, Option.bind_some,
    hclosing]

end Reader

/-! ## Reading texts -/

/-- The template of events in which every element is closed. -/
def Template.ofEvents? (events : List Xml.Event) : Option Template :=
  (Reader.run ⟨[], .empty, .plain⟩ events).bind fun r =>
    if r.around.isEmpty then r.settle else none

/-- The template that a text prints. -/
def Template.read? (content : String) : Option Template :=
  (Xml.read? content).bind Template.ofEvents?

/-- The template in the element of a statement. -/
def Statement.body? (content : String) : Option Template :=
  match Xml.read? content with
  | some (.opened _ _ :: events) => Template.ofEvents? events.dropLast
  | _ => none

end EntityMapping
