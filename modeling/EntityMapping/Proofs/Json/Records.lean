import EntityMapping.Proofs.Json.Punctuation
import Mathlib.Data.List.Forall2
import Mathlib.Data.List.Nodup

/-!
# Lists and records read back

The text of a list is read back item by item.  A record is read back from its object, whatever
the order of the members and whatever stands between them under other keys, and from the list of
its values.

Main results:

- `Reads.readList`: a list is read back if its items are.
- `Record.Fills.members`: the members of an object fill a record in any order.
- `Record.Fills.reads`: a record is read back from each of its spellings.
-/

namespace EntityMapping.Json

variable {α σ : Type} {text rest : List Char}

/-! ## Texts -/

/-- Texts separated by commas; `first` tells that none stands before them. -/
def separated : Bool → List (List Char) → List Char
  | _, [] => []
  | true, text :: texts => text ++ separated false texts
  | false, text :: texts => ',' :: (text ++ separated false texts)

/-- The text of a list of items. -/
def listText (items : List (List Char)) : List Char := '[' :: (separated true items ++ [']'])

/-- The text of a member, from its key and the text of its value. -/
def memberText (m : String × List Char) : List Char :=
  '"' :: (m.1.toList.flatMap escape ++ '"' :: ':' :: m.2)

/-- The text of an object. -/
def objectText (members : List (String × List Char)) : List Char :=
  '\x7b' :: (separated true (members.map memberText) ++ ['\x7d'])

/-- Separated texts are joined by commas. -/
theorem separated_eq_intercalate (texts : List (List Char)) :
    separated true texts = [','].intercalate texts := by
  induction texts with
  | nil => rfl
  | cons text texts ih =>
    cases texts with
    | nil => simp [separated]
    | cons next texts =>
      rw [List.intercalate_cons_cons, ← ih]
      simp [separated]

/-- The text begins visibly, and with no mark that ends a list. -/
def Begins (text : List Char) : Prop :=
  ∃ c cs, text = c :: cs ∧ isSpace c = false ∧ c ≠ ']'

/-- There are no more texts than characters if each text has one. -/
theorem length_le_separated {texts : List (List Char)} (h : ∀ text ∈ texts, Begins text)
    (first : Bool) : texts.length ≤ (separated first texts).length := by
  induction texts generalizing first with
  | nil => exact Nat.zero_le _
  | cons text texts ih =>
    obtain ⟨⟨c, cs, rfl, -⟩, hrest⟩ := List.forall_mem_cons.mp h
    have hlength := ih hrest false
    cases first <;> simp [separated] <;> omega

/-- The reader finds the value in the text, whatever follows that ends a number. -/
structure Reads (read : Reader α) (text : List Char) (a : α) : Prop where
  begins : Begins text
  read : ∀ rest, EndsNumber rest → read (text ++ rest) = .ok (a, rest)

/-- A document that is the text of a value is read as the value. -/
theorem Reads.document {read : Reader α} {a : α} (h : Reads read text a) :
    document read (String.ofList text) = .ok a := by
  have hread := h.read [] (by simp [EndsNumber])
  rw [List.append_nil] at hread
  simp only [Json.document, String.toList_ofList, hread, ok_bind]
  rfl

/-! ## Lists -/

/-- In front of an item stands its comma, unless it is the first one. -/
theorem exists_lead_separated (first : Bool) (text : List Char) (texts : List (List Char)) :
    ∃ lead, Leads first lead ∧
      separated first (text :: texts) = lead ++ (text ++ separated false texts) := by
  have empty : IsBlank [] := by simp [IsBlank]
  cases first with
  | true => exact ⟨[], empty, rfl⟩
  | false => exact ⟨[','], ⟨[], [], empty, empty, rfl⟩, rfl⟩

/-- A list of separated texts goes on as long as there is one. -/
theorem nextItem_separated {texts : List (List Char)} (h : Begins text) (first : Bool) :
    nextItem first (separated first (text :: texts) ++ rest) =
      .ok (true, text ++ (separated false texts ++ rest)) := by
  obtain ⟨c, cs, rfl, hspace, hc⟩ := h
  obtain ⟨lead, hlead, heq⟩ := exists_lead_separated first (c :: cs) texts
  rw [heq]
  simpa using nextItem_lead hlead hspace hc

/-- A comma or a closing bracket cannot belong to a number. -/
theorem endsNumber_separated (texts : List (List Char)) {mark : Char}
    (hmark : mark ∈ [',', ']', '\x7d']) (rest : List Char) :
    EndsNumber (separated false texts ++ mark :: rest) := by
  cases texts with
  | nil =>
    have empty : IsBlank [] := by simp [IsBlank]
    exact endsNumber_mark empty hmark rest
  | cons text texts => simp [separated, EndsNumber]

/-- The items of a list are read back in order. -/
theorem itemsRest_separated {item : Reader α} {texts : List (List Char)} {values : List α}
    (h : List.Forall₂ (Reads item) texts values) (first : Bool) {fuel : Nat}
    (hfuel : texts.length < fuel) :
    itemsRest item fuel first (separated first texts ++ ']' :: rest) =
      .ok (values, ']' :: rest) := by
  induction h generalizing first fuel with
  | nil =>
    obtain ⟨fuel, rfl⟩ := Nat.exists_eq_add_of_le' hfuel
    rfl
  | @cons text a texts values hitem _ ih =>
    obtain ⟨fuel, rfl⟩ := Nat.exists_eq_add_of_le' (Nat.zero_lt_of_lt hfuel)
    have hends := endsNumber_separated texts (by decide : ']' ∈ _) rest
    simp only [itemsRest, nextItem_separated hitem.begins, ok_bind, if_true,
      hitem.read _ hends, ih false (Nat.lt_of_succ_lt_succ hfuel)]
    rfl

/-- Texts that are read as values begin visibly. -/
theorem Reads.forall_begins {item : Reader α} {texts : List (List Char)} {values : List α}
    (h : List.Forall₂ (Reads item) texts values) : ∀ text ∈ texts, Begins text := by
  induction h with
  | nil => simp
  | cons hitem _ ih => exact List.forall_mem_cons.mpr ⟨hitem.begins, ih⟩

/-- A list is read back if its items are. -/
theorem Reads.readList {item : Reader α} {texts : List (List Char)} {values : List α}
    (h : List.Forall₂ (Reads item) texts values) :
    Reads (readList item) (listText texts) values where
  begins := ⟨'[', _, rfl, by decide⟩
  read rest _ := by
    have hfuel : texts.length < (separated true texts ++ ']' :: rest).length + 1 := by
      have hlength := length_le_separated (Reads.forall_begins h) true
      simp
      omega
    have hitems : itemsRest item _ true (separated true texts ++ ']' :: rest) = _ :=
      itemsRest_separated h true hfuel
    simp only [listText, List.cons_append, List.append_assoc, List.nil_append, Json.readList,
      skipBlank_cons (by decide : isSpace '[' = false), hitems, ok_bind]
    rfl

/-! ## Records -/

/-- The entries under the keys of given members. -/
def entriesOf (members entries : List (String × List Char)) : List (String × List Char) :=
  entries.filter fun e => e.1 ∈ members.map (·.1)

/-- The texts of a record with given members: the object in which they stand in any order, with
members under other keys between them, and the list of their values in the given order. -/
inductive SpellsRecord (members : List (String × List Char)) : List Char → Prop
  | object {entries : List (String × List Char)}
      (hown : (entriesOf members entries).Perm members)
      (hothers : ∀ e ∈ entries, e.1 ∉ members.map (·.1) → IsValue e.2) :
      SpellsRecord members (objectText entries)
  | list : SpellsRecord members (listText (members.map (·.2)))

/-- The field reads its member: whatever was read before, the member is added. -/
structure Field.Fills (field : Field σ) (m : String × List Char) (state : List String → σ) :
    Prop where
  name : field.name = m.1
  isSet : ∀ seen, field.isSet (state seen) = true ↔ m.1 ∈ seen
  begins : Begins m.2
  read : ∀ seen rest, EndsNumber rest →
    field.read (state seen) (m.2 ++ rest) = .ok (state (m.1 :: seen), rest)

/-- A place that is filled with its value. -/
theorem Field.Fills.slot {name : String} {get : σ → Option α} {put : σ → α → σ}
    {value : Reader α} {a : α} {state : List String → σ} (hvalue : Reads value text a)
    (hget : ∀ seen, (get (state seen)).isSome = true ↔ name ∈ seen)
    (hput : ∀ seen, put (state seen) a = state (name :: seen)) :
    (Field.slot name get put value).Fills (name, text) state where
  name := rfl
  isSet := hget
  begins := hvalue.begins
  read seen rest hrest := by
    simp [Field.slot, hvalue.read rest hrest, Except.map, hput]

/-- The fields of a record read its members, one after the other; the state depends on the keys
that were read. -/
structure Record.Fills (r : Record σ) (members : List (String × List Char))
    (state : List String → σ) : Prop where
  start : r.start = state []
  strict : r.strict = false
  nodup : (members.map (·.1)).Nodup
  fields : List.Forall₂ (fun field m => field.Fills m state) r.fields members

namespace Record.Fills

variable {r : Record σ} {members : List (String × List Char)} {state : List String → σ}

/-- The values of a record are read back from a list. -/
theorem items {fields : List (Field σ)} {ms : List (String × List Char)}
    (h : List.Forall₂ (fun field m => field.Fills m state) fields ms) (count : Nat)
    (seen : List String) :
    r.items fields count (state seen) (separated (count == 0) (ms.map (·.2)) ++ ']' :: rest) =
      .ok (state ((ms.map (·.1)).reverse ++ seen), ']' :: rest) := by
  induction h generalizing count seen with
  | nil => rfl
  | @cons field m fields ms hfield _ ih =>
    have hends := endsNumber_separated (ms.map (·.2)) (by decide : ']' ∈ _) rest
    have hrest := ih (count + 1) (m.1 :: seen)
    simp only [List.map_cons, Record.items, nextItem_separated hfield.begins, ok_bind, if_true,
      hfield.read _ _ hends]
    simpa using hrest

/-- The field that reads a member is found by its key. -/
theorem find?_of_mem {fields : List (Field σ)} {ms : List (String × List Char)}
    (h : List.Forall₂ (fun field m => field.Fills m state) fields ms)
    (hnodup : (ms.map (·.1)).Nodup) {m : String × List Char} (hm : m ∈ ms) :
    ∃ field, fields.find? (·.name == m.1) = some field ∧ field.Fills m state := by
  induction h with
  | nil => cases hm
  | @cons field first fields ms hfield _ ih =>
    rw [List.map_cons, List.nodup_cons] at hnodup
    rcases List.mem_cons.mp hm with rfl | hm
    · exact ⟨field, by simp [hfield.name], hfield⟩
    · have hne : (field.name == m.1) = false := by
        rw [hfield.name, beq_eq_false_iff_ne]
        rintro heq
        exact hnodup.1 (heq ▸ List.mem_map_of_mem hm)
      simpa [List.find?_cons, hne] using ih hnodup.2 hm

/-- A key that no member has is no field of a record that the members fill. -/
theorem find?_of_not_mem {fields : List (Field σ)} {ms : List (String × List Char)}
    (h : List.Forall₂ (fun field m => field.Fills m state) fields ms) {key : String}
    (hkey : key ∉ ms.map (·.1)) : fields.find? (·.name == key) = none := by
  induction h with
  | nil => rfl
  | @cons field first fields ms hfield _ ih =>
    rw [List.map_cons, List.mem_cons, not_or] at hkey
    have hne : (field.name == key) = false := by
      rw [hfield.name, beq_eq_false_iff_ne]
      exact Ne.symm hkey.1
    simpa [List.find?_cons, hne] using ih hkey.2

/-- An object of separated members goes on with the key of the next one. -/
theorem nextKey_separated (key : String) (value : List Char) (texts : List (List Char))
    (first : Bool) :
    nextKey first (separated first (memberText (key, value) :: texts) ++ rest) =
      .ok (some key, ':' :: (value ++ (separated false texts ++ rest))) := by
  obtain ⟨lead, hlead, heq⟩ := exists_lead_separated first (memberText (key, value)) texts
  rw [heq]
  simpa [memberText] using nextKey_lead hlead (spellsString_quote key)

/-- The members of an object fill a record in any order, whatever stands under other keys. -/
theorem members_entries (h : r.Fills members state) {entries : List (String × List Char)}
    (hown : ∀ e ∈ entries, e.1 ∈ members.map (·.1) → e ∈ members)
    (hothers : ∀ e ∈ entries, e.1 ∉ members.map (·.1) → IsValue e.2) (first : Bool)
    {seen : List String} {fuel : Nat} (hfuel : entries.length < fuel)
    (hnodup : (seen ++ (entriesOf members entries).map (·.1)).Nodup) :
    ∃ read, r.members fuel first (state seen)
        (separated first (entries.map memberText) ++ '\x7d' :: rest) =
          .ok (state read, '\x7d' :: rest) ∧
      ∀ key, key ∈ read ↔ key ∈ seen ++ (entriesOf members entries).map (·.1) := by
  induction entries generalizing first seen fuel with
  | nil =>
    obtain ⟨fuel, rfl⟩ := Nat.exists_eq_add_of_le' hfuel
    refine ⟨seen, ?_, by simp [entriesOf]⟩
    cases first <;> rfl
  | cons e entries ih =>
    obtain ⟨fuel, rfl⟩ := Nat.exists_eq_add_of_le' (Nat.zero_lt_of_lt hfuel)
    obtain ⟨hownFirst, hown⟩ := List.forall_mem_cons.mp hown
    obtain ⟨hotherFirst, hothers⟩ := List.forall_mem_cons.mp hothers
    have hends := endsNumber_separated (entries.map memberText) (by decide : '\x7d' ∈ _) rest
    have hcolon (cs : List Char) : colon (':' :: cs) = .ok cs := rfl
    rw [List.map_cons, Record.members, nextKey_separated, ok_bind]
    simp only [hcolon, ok_bind]
    by_cases hkey : e.1 ∈ members.map (·.1)
    · obtain ⟨field, hfind, hfield⟩ := find?_of_mem h.fields h.nodup (hownFirst hkey)
      have hfilter : entriesOf members (e :: entries) = e :: entriesOf members entries :=
        List.filter_cons_of_pos (by simpa using hkey)
      rw [hfilter, List.map_cons] at hnodup ⊢
      have hmiddle : ((e.1 :: seen) ++ (entriesOf members entries).map (·.1)).Nodup :=
        List.perm_middle.nodup_iff.mp hnodup
      have hunset : field.isSet (state seen) = false := by
        rw [← Bool.not_eq_true, hfield.isSet]
        intro hseen
        exact (List.nodup_cons.mp hmiddle).1 (List.mem_append_left _ hseen)
      obtain ⟨read, hread, hmem⟩ := ih hown hothers false (Nat.lt_of_succ_lt_succ hfuel) hmiddle
      refine ⟨read, ?_, fun key => (hmem key).trans List.perm_middle.mem_iff.symm⟩
      simp only [hfind, hunset, hfield.read _ _ hends, ok_bind]
      exact hread
    · have hfilter : entriesOf members (e :: entries) = entriesOf members entries :=
        List.filter_cons_of_neg (by simpa using hkey)
      rw [hfilter] at hnodup ⊢
      simp only [find?_of_not_mem h.fields hkey, h.strict, (hotherFirst hkey).skipAny hends, ok_bind]
      exact ih hown hothers false (Nat.lt_of_succ_lt_succ hfuel) hnodup

/-- A record is read back from each of its spellings. -/
theorem reads (h : r.Fills members state) {finish : σ → Except Fault α} {a : α}
    (hfinish : ∀ read, (∀ m ∈ members, m.1 ∈ read) → finish (state read) = .ok a)
    (htext : SpellsRecord members text) : Reads (r.read finish) text a := by
  cases htext with
  | list =>
    refine ⟨⟨'[', _, rfl, by decide⟩, fun rest _ => ?_⟩
    have hitems : r.items r.fields 0 (state [])
        (separated true (members.map (·.2)) ++ ']' :: rest) =
          .ok (state ((members.map (·.1)).reverse ++ []), ']' :: rest) := items h.fields 0 []
    have hdone := hfinish ((members.map (·.1)).reverse ++ []) fun m hm => by
      simpa using ⟨m.2, hm⟩
    simp only [listText, List.cons_append, List.append_assoc, List.nil_append, Record.read,
      skipBlank_cons (by decide : isSpace '[' = false), h.start, hitems, hdone, ok_bind]
    rfl
  | @object entries hown hothers =>
    refine ⟨⟨'\x7b', _, rfl, by decide⟩, fun rest _ => ?_⟩
    have hmember : ∀ e ∈ entries, e.1 ∈ members.map (·.1) → e ∈ members := fun e he hkey =>
      hown.mem_iff.mp (List.mem_filter.mpr ⟨he, by simpa using hkey⟩)
    have hnodup : (([] : List String) ++ (entriesOf members entries).map (·.1)).Nodup :=
      (hown.map Prod.fst).nodup_iff.mpr h.nodup
    have hfuel : entries.length < (separated true (entries.map memberText) ++
        '\x7d' :: rest).length + 1 := by
      have hbegins : ∀ text ∈ entries.map memberText, Begins text := by
        rintro text htext
        obtain ⟨m, -, rfl⟩ := List.mem_map.mp htext
        exact ⟨'"', _, rfl, by decide⟩
      have hlength := length_le_separated hbegins true
      simp at hlength ⊢
      omega
    obtain ⟨read, hread, hmem⟩ : ∃ read, r.members _ true (state [])
        (separated true (entries.map memberText) ++ '\x7d' :: rest) =
          .ok (state read, '\x7d' :: rest) ∧ _ :=
      h.members_entries hmember hothers true hfuel hnodup
    have hdone := hfinish read fun m hm => (hmem m.1).mpr <| by
      simpa using ⟨m.2, hown.mem_iff.mpr hm⟩
    simp only [objectText, List.cons_append, List.append_assoc, List.nil_append, Record.read,
      skipBlank_cons (by decide : isSpace '\x7b' = false), h.start, hread, hdone, ok_bind]
    rfl

end Record.Fills

end EntityMapping.Json
