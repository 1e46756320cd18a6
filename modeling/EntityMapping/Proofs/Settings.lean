import EntityMapping.Proofs.Json.TextRecords
import EntityMapping.Proofs.Text.LetterCase
import EntityMapping.Settings

/-!
# Settings from documents

The documents that give settings: objects with some of the two keys, none twice, and lists of at
most their two values, with a dialect under one of its names in any letter case.  What a document
leaves out has its default, and every other text is refused as a whole, so that a misspelt key
never stands for a default.

Main results:

- `Dialect.ofText_eq_ok_iff`: the names of a dialect.
- `Settings.foldlM_give_iff`: what the members of a document give.
- `Settings.read_documents`: the documents that are read, with the settings that they give.
-/

namespace EntityMapping

/-! ## Dialects by name -/

namespace Dialect

/-- The name of a dialect and its other names. -/
def words : Dialect → List String
  | postgres => ["postgres", "postgresql", "pg"]
  | mysql => ["mysql", "mariadb"]
  | h2 => ["h2"]
  | oracle => ["oracle", "ora"]

/-- The words for dialects are plain. -/
theorem isPlain_words (d : Dialect) :
    ∀ word ∈ d.words, ∀ c ∈ word.toList, Text.IsPlain c := by
  have hall : d.words.all (·.toList.all (Text.IsPlain ·)) = true := by cases d <;> rfl
  simpa using hall

/-- A dialect is found under its names, in any letter case, and under no other text. -/
theorem ofText_eq_ok_iff {name : String} {d : Dialect} :
    ofText name = .ok d ↔ ∃ word ∈ d.words, Text.InAnyCase word name := by
  have hfold : (∃ word ∈ d.words, Text.InAnyCase word name) ↔ Text.lower name ∈ d.words := by
    constructor
    · rintro ⟨word, hword, hcase⟩
      rwa [(Text.lower_eq_iff (d.isPlain_words word hword)).mpr hcase]
    · intro hword
      exact ⟨_, hword, (Text.lower_eq_iff (d.isPlain_words _ hword)).mp rfl⟩
  rw [hfold, ofText]
  generalize Text.lower name = wanted
  constructor
  · intro h
    split at h
    · next hwanted =>
      cases h
      exact hwanted
    split at h
    · next hwanted =>
      cases h
      exact hwanted
    split at h
    · next hwanted =>
      cases h
      exact List.mem_singleton.mpr hwanted
    split at h
    · next hwanted =>
      cases h
      exact hwanted
    · cases h
  · intro h
    cases d <;> simp only [words, List.mem_cons, List.not_mem_nil, or_false] at h
    · rcases h with rfl | rfl | rfl <;> rfl
    · rcases h with rfl | rfl <;> rfl
    · subst h; rfl
    · rcases h with rfl | rfl <;> rfl

end Dialect

namespace Settings

open Json

/-! ## The record of the settings -/

/-- A dialect is read exactly from a string that names it. -/
theorem readDialect_eq_ok_iff (cs : List Char) (d : Dialect) (rest : List Char) :
    readDialect cs = .ok (d, rest) ↔
      ∃ name, readString cs = .ok (name, rest) ∧ (Dialect.ofText name).toOption = some d := by
  simp only [toOption_eq_some_iff]
  constructor
  · intro h
    obtain ⟨⟨name, rest'⟩, hread, h⟩ := bind_eq_ok.mp h
    dsimp only at h
    split at h
    · next d' hname =>
      cases h
      exact ⟨name, hread, hname⟩
    · cases h
  · rintro ⟨name, hread, hname⟩
    simp [readDialect, hread, hname, ok_bind, pure, Except.pure]

/-- The field of the dialect. -/
def dialectField : TextField Draft :=
  .slot "dialect" (·.dialect?) (fun s d => { s with dialect? := some d }) readDialect
    (fun name => (Dialect.ofText name).toOption) readDialect_eq_ok_iff

/-- The field of the sequence. -/
def sequenceField : TextField Draft :=
  .slot "default_sequence_name" (·.defaultSequence?)
    (fun s name => { s with defaultSequence? := some name }) readString some (by simp)

/-- Settings are a record of two texts. -/
theorem takesTexts_record : record.TakesTexts [dialectField, sequenceField] where
  fields := rfl
  strict := rfl
  short := rfl

/-! ## What the members of a document give -/

/-- The values under a key. -/
def valuesOf (key : String) (entries : List (String × String)) : List String :=
  (entries.filter (·.1 == key)).map (·.2)

/-- A place of the settings after a document: as it was if the document has no value for it, and
otherwise it was empty and is filled with what the only value stands for. -/
def Fills {α : Type} (parse : String → Option α) (old : Option α) (values : List String)
    (new : Option α) : Prop :=
  values = [] ∧ new = old ∨ ∃ v a, values = [v] ∧ old = none ∧ parse v = some a ∧ new = some a

/-- A first value fills a setting exactly if the setting was open and the others follow. -/
theorem fills_cons {α : Type} {parse : String → Option α} {old new : Option α} {v : String}
    {values : List String} : Fills parse old (v :: values) new ↔
      old = none ∧ ∃ a, parse v = some a ∧ Fills parse (some a) values new := by
  constructor
  · rintro (⟨hnil, -⟩ | ⟨v', a, hvalues, hold, hparse, hnew⟩)
    · cases hnil
    · cases hvalues
      exact ⟨hold, a, hparse, .inl ⟨rfl, hnew⟩⟩
  · rintro ⟨hold, a, hparse, ⟨rfl, hnew⟩ | ⟨_, _, _, hfull, -⟩⟩
    · exact .inr ⟨v, a, rfl, hold, hparse, hnew⟩
    · cases hfull

/-- The keys of the settings. -/
def keys : List String := ["dialect", "default_sequence_name"]

variable {s s' : Draft} {entries : List (String × String)}

/-- The key of the dialect takes the name of one, and only once. -/
theorem give_dialect_iff {name : String} :
    give [dialectField, sequenceField] s ("dialect", name) = some s' ↔
      s.dialect? = none ∧ ∃ d, (Dialect.ofText name).toOption = some d ∧
        { s with dialect? := some d } = s' := by
  have hfind : [dialectField, sequenceField].find? (·.name == "dialect") = some dialectField := rfl
  obtain ⟨dialect?, defaultSequence?⟩ := s
  rw [give, hfind]
  cases dialect? <;> simp [dialectField, TextField.slot, Field.slot]

/-- The key of the default sequence takes any name, and only once. -/
theorem give_sequence_iff {name : String} :
    give [dialectField, sequenceField] s ("default_sequence_name", name) = some s' ↔
      s.defaultSequence? = none ∧ { s with defaultSequence? := some name } = s' := by
  have hfind : [dialectField, sequenceField].find? (·.name == "default_sequence_name") =
      some sequenceField := rfl
  obtain ⟨dialect?, defaultSequence?⟩ := s
  rw [give, hfind]
  cases defaultSequence? <;> simp [sequenceField, TextField.slot, Field.slot]

/-- Only the two keys take a value. -/
theorem mem_keys_of_give {m : String × String}
    (h : give [dialectField, sequenceField] s m = some s') : m.1 ∈ keys := by
  unfold give at h
  split at h
  · next field hfind =>
    have hname : field.name = m.1 := by simpa using List.find?_some hfind
    have hfield := List.mem_of_find?_eq_some hfind
    simp only [List.mem_cons, List.not_mem_nil, or_false] at hfield
    rcases hfield with rfl | rfl
    · exact hname ▸ (by decide : "dialect" ∈ keys)
    · exact hname ▸ (by decide : "default_sequence_name" ∈ keys)
  · cases h

/-- Members are taken if they are known and each place is filled at most once. -/
theorem foldlM_give_iff :
    entries.foldlM (give [dialectField, sequenceField]) s = some s' ↔
      (∀ e ∈ entries, e.1 ∈ keys) ∧
        Fills (fun name => (Dialect.ofText name).toOption) s.dialect?
          (valuesOf "dialect" entries) s'.dialect? ∧
        Fills some s.defaultSequence? (valuesOf "default_sequence_name" entries)
          s'.defaultSequence? := by
  induction entries generalizing s with
  | nil =>
    obtain ⟨dialect?, defaultSequence?⟩ := s
    obtain ⟨dialect?', defaultSequence?'⟩ := s'
    simp [Fills, valuesOf, eq_comm]
  | cons e rest ih =>
    obtain ⟨key, value⟩ := e
    rw [List.foldlM_cons, Option.bind_eq_bind, Option.bind_eq_some_iff, List.forall_mem_cons]
    by_cases hkey : key ∈ keys
    · have hkeys : key = "dialect" ∨ key = "default_sequence_name" := by simpa [keys] using hkey
      rcases hkeys with rfl | rfl
      · have hdialect : valuesOf "dialect" (("dialect", value) :: rest) =
            value :: valuesOf "dialect" rest := rfl
        have hsequence : valuesOf "default_sequence_name" (("dialect", value) :: rest) =
            valuesOf "default_sequence_name" rest := rfl
        simp only [give_dialect_iff, ih, hdialect, hsequence, fills_cons, hkey, true_and]
        constructor
        · rintro ⟨_, ⟨hfree, d, hname, rfl⟩, hknown, hdialects, hsequences⟩
          exact ⟨hknown, ⟨hfree, d, hname, hdialects⟩, hsequences⟩
        · rintro ⟨hknown, ⟨hfree, d, hname, hdialects⟩, hsequences⟩
          exact ⟨_, ⟨hfree, d, hname, rfl⟩, hknown, hdialects, hsequences⟩
      · have hdialect : valuesOf "dialect" (("default_sequence_name", value) :: rest) =
            valuesOf "dialect" rest := rfl
        have hsequence : valuesOf "default_sequence_name" (("default_sequence_name", value) :: rest) =
            value :: valuesOf "default_sequence_name" rest := rfl
        simp only [give_sequence_iff, ih, hdialect, hsequence, fills_cons, hkey, true_and]
        constructor
        · rintro ⟨_, ⟨hfree, rfl⟩, hknown, hdialects, hsequences⟩
          exact ⟨hknown, hdialects, hfree, value, rfl, hsequences⟩
        · rintro ⟨hknown, hdialects, hfree, _, hvalue, hsequences⟩
          cases hvalue
          exact ⟨_, ⟨hfree, rfl⟩, hknown, hdialects, hsequences⟩
    · constructor
      · rintro ⟨_, hgive, -⟩
        exact absurd (mem_keys_of_give hgive) hkey
      · rintro ⟨⟨hknown, -⟩, -⟩
        exact absurd hknown hkey

/-- The values of a list are given like members under the keys in order. -/
theorem giveAll_eq_some_iff {values : List String} :
    giveAll [dialectField, sequenceField] record.start values = some s ↔
      values.length ≤ keys.length ∧
        (keys.zip values).foldlM (give [dialectField, sequenceField]) record.start = some s := by
  have hdialect (name : String) : give [dialectField, sequenceField] record.start
      ("dialect", name) = dialectField.put record.start name := rfl
  match values with
  | [] => simp [giveAll, keys]
  | [name] => simp [giveAll, keys, hdialect]
  | [name, sequence] =>
    have hsequence {s : Draft} (h : dialectField.put record.start name = some s) :
        give [dialectField, sequenceField] s ("default_sequence_name", sequence) =
          sequenceField.put s sequence := by
      obtain ⟨d, -, rfl⟩ := Option.map_eq_some_iff.mp h
      rfl
    cases hput : dialectField.put record.start name with
    | none => simp [giveAll, keys, hdialect, hput]
    | some s => simp [giveAll, keys, hdialect, hput, hsequence hput]
  | name :: sequence :: other :: others => simp [giveAll, keys]

/-! ## Documents -/

/-- The texts of the documents of members with these keys and values: an object of the members,
and the list of the values, if the keys are the first keys of the settings. -/
inductive SpellsBody : List Char → List (String × String) → Prop
  | object {text : List Char} {entries : List (String × String)}
      (h : Listed SpellsMember true text entries) :
      SpellsBody ('\x7b' :: (text ++ ['\x7d'])) entries
  | list {text : List Char} {values : List String} (h : Listed SpellsString true text values)
      (hlength : values.length ≤ keys.length) :
      SpellsBody ('[' :: (text ++ [']'])) (keys.zip values)

/-- The document has these keys and values, with blanks wherever they may stand. -/
def Spells (text : String) (entries : List (String × String)) : Prop :=
  ∃ before body after, IsBlank before ∧ IsBlank after ∧ SpellsBody body entries ∧
    text.toList = before ++ (body ++ after)

/-- The settings that keys and values give: every key is known and given at most once, the
dialect is the one with the name, and what is left out has its default. -/
structure GivenBy (entries : List (String × String)) (s : Settings) : Prop where
  known : ∀ e ∈ entries, e.1 ∈ keys
  dialect : valuesOf "dialect" entries = [] ∧ s.dialect = .postgres ∨
    ∃ name, valuesOf "dialect" entries = [name] ∧
      ∃ word ∈ s.dialect.words, Text.InAnyCase word name
  defaultSequence :
    valuesOf "default_sequence_name" entries = [] ∧ s.defaultSequence = "seq_mapper_derive" ∨
      valuesOf "default_sequence_name" entries = [s.defaultSequence]

/-- A place that was empty and has its default where it is not filled. -/
theorem exists_fills_iff {α : Type} {parse : String → Option α} {values : List String}
    {default a : α} : (∃ new, Fills parse none values new ∧ new.getD default = a) ↔
      values = [] ∧ a = default ∨ ∃ v, values = [v] ∧ parse v = some a := by
  constructor
  · rintro ⟨_, ⟨hnil, rfl⟩ | ⟨v, a', hvalues, -, hparse, rfl⟩, rfl⟩
    · exact .inl ⟨hnil, rfl⟩
    · exact .inr ⟨v, hvalues, hparse⟩
  · rintro (⟨hnil, rfl⟩ | ⟨v, hvalues, hparse⟩)
    · exact ⟨none, .inl ⟨hnil, rfl⟩, rfl⟩
    · exact ⟨some a, .inr ⟨v, a, hvalues, rfl, hparse, rfl⟩, rfl⟩

/-- Entries give settings exactly if they fill the record one after the other. -/
theorem givenBy_iff {s : Settings} :
    GivenBy entries s ↔ ∃ draft,
      entries.foldlM (give [dialectField, sequenceField]) record.start = some draft ∧
        ofDraft draft = s := by
  simp only [foldlM_give_iff]
  constructor
  · intro h
    obtain ⟨dialect?, hdialect, hd⟩ := exists_fills_iff.mpr <| h.dialect.imp_right
      fun ⟨name, hvalues, hword⟩ => ⟨name, hvalues,
        toOption_eq_some_iff.mpr (Dialect.ofText_eq_ok_iff.mpr hword)⟩
    obtain ⟨sequence?, hsequence, hq⟩ := exists_fills_iff.mpr <| h.defaultSequence.imp_right
      fun hvalues => ⟨s.defaultSequence, hvalues, rfl⟩
    refine ⟨⟨dialect?, sequence?⟩, ⟨h.known, hdialect, hsequence⟩, ?_⟩
    cases s
    exact congr (congrArg Settings.mk hd) hq
  · rintro ⟨draft, ⟨hknown, hdialect, hsequence⟩, rfl⟩
    refine ⟨hknown, ?_, ?_⟩
    · refine (exists_fills_iff.mp ⟨_, hdialect, rfl⟩).imp_right ?_
      rintro ⟨name, hvalues, hname⟩
      exact ⟨name, hvalues, Dialect.ofText_eq_ok_iff.mp (toOption_eq_some_iff.mp hname)⟩
    · refine (exists_fills_iff.mp ⟨_, hsequence, rfl⟩).imp_right ?_
      rintro ⟨name, hvalues, hname⟩
      rw [hvalues, Option.some.inj hname]
      rfl

/-- A body gives a draft exactly if its entries do. -/
theorem gives_iff {body : List Char} {draft : Draft} :
    Gives [dialectField, sequenceField] record.start body draft ↔
      ∃ entries, SpellsBody body entries ∧
        entries.foldlM (give [dialectField, sequenceField]) record.start = some draft := by
  constructor
  · rintro (⟨h, hgive⟩ | ⟨h, hgive⟩)
    · exact ⟨_, .object h, hgive⟩
    · obtain ⟨hlength, hgive⟩ := giveAll_eq_some_iff.mp hgive
      exact ⟨_, .list h hlength, hgive⟩
  · rintro ⟨entries, ⟨h⟩ | ⟨h, hlength⟩, hgive⟩
    · exact .object h hgive
    · exact .list h (giveAll_eq_some_iff.mpr ⟨hlength, hgive⟩)

/-- A document is read exactly if it spells entries that give the settings. -/
theorem readDocument_eq_ok_iff {text : String} {s : Settings} :
    readDocument text = .ok s ↔ ∃ entries, Spells text entries ∧ GivenBy entries s := by
  simp only [readDocument, document_eq_ok_iff, takesTexts_record.read_eq_ok_iff, gives_iff,
    givenBy_iff]
  constructor
  · rintro ⟨after, hafter, before, body, draft, hbefore, ⟨entries, hbody, hgive⟩, hfinish, htext⟩
    cases hfinish
    exact ⟨entries, ⟨before, body, after, hbefore, hafter, hbody, htext⟩, draft, hgive, rfl⟩
  · rintro ⟨entries, ⟨before, body, after, hbefore, hafter, hbody, htext⟩, draft, hgive, rfl⟩
    exact ⟨after, hafter, before, body, draft, hbefore, ⟨entries, hbody, hgive⟩, rfl, htext⟩

/-- The documents that are read are those of known keys, none given twice, whose dialect is a name
in any letter case, and they give these values and the defaults of what they leave out; every
other text is refused. -/
theorem read_documents (text : String) :
    (∀ s, read text = .ok s ↔ ∃ entries, Spells text entries ∧ GivenBy entries s) ∧
      ((∃ entries s, Spells text entries ∧ GivenBy entries s) ∨
        ∃ message, read text = .error (.invalidSettings message)) := by
  refine ⟨fun s => (read_eq_ok_iff text s).trans readDocument_eq_ok_iff, ?_⟩
  cases hread : readDocument text with
  | ok s =>
    obtain ⟨entries, hspells, hgiven⟩ := readDocument_eq_ok_iff.mp hread
    exact .inl ⟨entries, s, hspells, hgiven⟩
  | error fault => exact .inr ⟨fault.message, by rw [read, hread]⟩

example : read "[\"MariaDB\"]" = .ok ⟨.mysql, "seq_mapper_derive"⟩ := rfl

example : readDocument "\x7b\"dialekt\": \"pg\"\x7d" =
    .error (.unknownField "dialekt" keys) := rfl

end Settings

end EntityMapping
