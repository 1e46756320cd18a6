import EntityMapping.Proofs.Json.Punctuation

/-!
# Records of strings

The texts of lists and of objects whose items are strings, with commas between them and blanks
wherever they may stand, and what the readers make of them: a record that refuses other keys is
read from the objects with some of its keys, none twice, and from the lists of its first fields,
and from nothing else.

Main results:

- `listed_of_members`, `Listed.members`: the members of an object that are read.
- `listed_of_items`, `Listed.items`: the items of a list that are read.
- `Record.TakesTexts.read_eq_ok_iff`: the texts that are read as a record of strings.
- `document_eq_ok_iff`: the documents that are read.
-/

namespace EntityMapping.Json

variable {α σ : Type} {cs rest : List Char} {first : Bool}

/-! ## Lists of items -/

/-- The texts of items with commas between them; `first` tells that none stands before them. -/
inductive Listed (item : List Char → α → Prop) : Bool → List Char → List α → Prop
  | nil {first : Bool} {blank : List Char} (h : IsBlank blank) : Listed item first blank []
  | cons {first : Bool} {lead text rest : List Char} {a : α} {as : List α}
      (hlead : Leads first lead) (hitem : item text a) (h : Listed item false rest as) :
      Listed item first (lead ++ (text ++ rest)) (a :: as)

/-- The text of a member of an object. -/
def SpellsMember (text : List Char) (m : String × String) : Prop :=
  ∃ key space gap value, SpellsString key m.1 ∧ IsBlank space ∧ IsBlank gap ∧
    SpellsString value m.2 ∧ text = key ++ (space ++ ':' :: (gap ++ value))

/-- There are no more items than characters if each item has one. -/
theorem Listed.length_le {item : List Char → α → Prop} (hitem : ∀ text a, item text a → text ≠ [])
    {text : List Char} {as : List α} (h : Listed item first text as) :
    as.length ≤ text.length := by
  induction h with
  | nil => exact Nat.zero_le _
  | cons _ hhead _ ih =>
    have hpos := List.length_pos_iff.mpr (hitem _ _ hhead)
    simp
    omega

/-! ## Records of strings -/

/-- A field whose value is a string, with what the string does to the state. -/
structure TextField (σ : Type) extends Field σ where
  put : σ → String → Option σ
  read_eq_ok_iff : ∀ s cs s' rest, read s cs = .ok (s', rest) ↔
    ∃ v, readString cs = .ok (v, rest) ∧ put s v = some s'

/-- A place of the state that is filled with what a string stands for. -/
def TextField.slot (name : String) (get : σ → Option α) (put : σ → α → σ) (value : Reader α)
    (parse : String → Option α)
    (hvalue : ∀ cs a rest, value cs = .ok (a, rest) ↔
      ∃ v, readString cs = .ok (v, rest) ∧ parse v = some a) : TextField σ where
  toField := .slot name get put value
  put s v := (parse v).map (put s)
  read_eq_ok_iff s cs s' rest := by
    constructor
    · intro h
      obtain ⟨⟨a, rest'⟩, hread, heq⟩ := map_eq_ok.mp h
      cases heq
      obtain ⟨v, hstring, hparse⟩ := (hvalue cs a rest').mp hread
      exact ⟨v, hstring, by rw [hparse]; rfl⟩
    · rintro ⟨v, hstring, hput⟩
      obtain ⟨a, hparse, rfl⟩ := Option.map_eq_some_iff.mp hput
      exact map_eq_ok.mpr ⟨(a, rest), (hvalue cs a rest).mpr ⟨v, hstring, hparse⟩, rfl⟩

/-- What a member does to a state: a field is given once, and other keys are refused. -/
def give (fields : List (TextField σ)) (s : σ) (m : String × String) : Option σ :=
  match fields.find? (·.name == m.1) with
  | some field => if field.isSet s then none else field.put s m.2
  | none => none

/-- What the values of the first fields do to a state. -/
def giveAll : List (TextField σ) → σ → List String → Option σ
  | _, s, [] => some s
  | [], _, _ :: _ => none
  | field :: fields, s, v :: values => (field.put s v).bind (giveAll fields · values)

/-- The record has these fields, refuses other keys, and is read from lists that leave out its
last fields. -/
structure Record.TakesTexts (r : Record σ) (fields : List (TextField σ)) : Prop where
  fields : r.fields = fields.map (·.toField)
  strict : r.strict = true
  short : r.short = true

variable {r : Record σ} {fields : List (TextField σ)} {s s' : σ}

/-- A record of texts finds a field by its name. -/
theorem Record.TakesTexts.find? (h : r.TakesTexts fields) (key : String) :
    r.fields.find? (·.name == key) = (fields.find? (·.name == key)).map (·.toField) := by
  rw [h.fields, List.find?_map]
  rfl

/-- A member that may be given is read. -/
theorem Record.TakesTexts.members_cons (h : r.TakesTexts fields) {lead text : List Char}
    {m : String × String} (hlead : Leads first lead) (hmember : SpellsMember text m)
    (hgive : give fields s m = some s') (fuel : Nat) (cs : List Char) :
    r.members (fuel + 1) first s (lead ++ (text ++ cs)) = r.members fuel false s' cs := by
  obtain ⟨key, space, gap, value, hkey, hspace, hgap, hvalue, rfl⟩ := hmember
  have hnext : nextKey first (lead ++ (key ++ (space ++ ':' :: (gap ++ value)) ++ cs)) =
      .ok (some m.1, space ++ ':' :: (gap ++ (value ++ cs))) := by
    simpa using nextKey_lead hlead hkey
  rw [Record.members, hnext, ok_bind]
  unfold give at hgive
  split at hgive
  · next field hfind =>
    split at hgive
    · cases hgive
    · next hset =>
      have hread : field.read s (gap ++ (value ++ cs)) = .ok (s', cs) :=
        (field.read_eq_ok_iff _ _ _ _).mpr
          ⟨m.2, readString_eq_ok_iff.mpr ⟨gap, value, hgap, hvalue, rfl⟩, hgive⟩
      simp only [h.find?, hfind, Option.map_some, if_neg hset, colon_append hspace, ok_bind, hread]
  · cases hgive

/-- What is read as the members of an object ends there, or is a member that may be given, with
others behind it. -/
theorem Record.TakesTexts.members_cases (h : r.TakesTexts fields) {fuel : Nat}
    (hread : r.members (fuel + 1) first s cs = .ok (s', rest)) :
    (∃ blank tail, IsBlank blank ∧ rest = '\x7d' :: tail ∧ cs = blank ++ rest ∧ s' = s) ∨
      ∃ lead text m s₁ cs₁, Leads first lead ∧ SpellsMember text m ∧ give fields s m = some s₁ ∧
        cs = lead ++ (text ++ cs₁) ∧ r.members fuel false s₁ cs₁ = .ok (s', rest) := by
  rw [Record.members] at hread
  obtain ⟨⟨key?, cs'⟩, hkey, hmember⟩ := bind_eq_ok.mp hread
  rcases nextKey_cases hkey with ⟨blank, tail, hblank, rfl, hrest, hcs⟩ |
    ⟨lead, text, key, hlead, htext, rfl, rfl⟩
  · cases hmember
    exact .inl ⟨blank, tail, hblank, hrest, hcs, rfl⟩
  · simp only [h.find?] at hmember
    cases hfind : fields.find? (·.name == key) with
    | none => simp [hfind, h.strict] at hmember
    | some field =>
      simp only [hfind, Option.map_some] at hmember
      split at hmember
      · cases hmember
      · next hset =>
        obtain ⟨cs₁, hcolon, hvalue⟩ := bind_eq_ok.mp hmember
        obtain ⟨⟨s₁, cs₂⟩, hfield, hothers⟩ := bind_eq_ok.mp hvalue
        obtain ⟨space, hspace, rfl⟩ := colon_eq_ok_iff.mp hcolon
        obtain ⟨v, hvalue, hput⟩ := (field.read_eq_ok_iff _ _ _ _).mp hfield
        obtain ⟨gap, value, hgap, hspells, rfl⟩ := readString_eq_ok_iff.mp hvalue
        exact .inr ⟨lead, text ++ (space ++ ':' :: (gap ++ value)), (key, v), s₁, cs₂, hlead,
          ⟨text, space, gap, value, htext, hspace, hgap, hspells, rfl⟩,
          by simp [give, hfind, hset, hput], by simp, hothers⟩

/-- What is read as the members of an object is a list of members, each of which may be given. -/
theorem listed_of_members (h : r.TakesTexts fields) {fuel : Nat}
    (hread : r.members fuel first s cs = .ok (s', rest)) :
    ∃ text entries tail, Listed SpellsMember first text entries ∧
      entries.foldlM (give fields) s = some s' ∧ rest = '\x7d' :: tail ∧ cs = text ++ rest := by
  induction fuel generalizing first s cs with
  | zero => cases hread
  | succ fuel ih =>
    rcases h.members_cases hread with ⟨blank, tail, hblank, hrest, hcs, rfl⟩ |
      ⟨lead, text, m, s₁, cs₁, hlead, hmember, hgive, rfl, hothers⟩
    · exact ⟨blank, [], tail, .nil hblank, rfl, hrest, hcs⟩
    · obtain ⟨others, entries, tail, hlisted, hfold, hrest, rfl⟩ := ih hothers
      refine ⟨_, m :: entries, tail, .cons hlead hmember hlisted, ?_, hrest, by simp⟩
      rw [List.foldlM_cons, hgive]
      exact hfold

/-- Members that may be given are read; the fuel bounds their number. -/
theorem Listed.members (h : r.TakesTexts fields) {text tail : List Char}
    {entries : List (String × String)} (hlisted : Listed SpellsMember first text entries)
    (hfold : entries.foldlM (give fields) s = some s') {fuel : Nat}
    (hfuel : entries.length < fuel) :
    r.members fuel first s (text ++ '\x7d' :: tail) = .ok (s', '\x7d' :: tail) := by
  induction hlisted generalizing s fuel with
  | nil hblank =>
    cases fuel with
    | zero => exact absurd hfuel (Nat.not_lt_zero _)
    | succ fuel =>
      cases hfold
      rw [Record.members, nextKey_end hblank]
      rfl
  | cons hlead hmember _ ih =>
    cases fuel with
    | zero => exact absurd hfuel (Nat.not_lt_zero _)
    | succ fuel =>
      rw [List.foldlM_cons] at hfold
      obtain ⟨s₁, hgive, hfold⟩ := Option.bind_eq_some_iff.mp hfold
      rw [List.append_assoc, List.append_assoc, h.members_cons hlead hmember hgive]
      exact ih hfold (Nat.lt_of_succ_lt_succ hfuel)

/-- A spelled string begins with a quote. -/
theorem SpellsString.exists_cons {text : List Char} {s : String} (h : SpellsString text s) :
    ∃ tail, text = '"' :: tail := by
  obtain ⟨content, rfl, _⟩ := h
  exact ⟨_, rfl⟩

/-- What is read as the items of a list up to its end is a list of values for the first fields. -/
theorem listed_of_items (hshort : r.short = true) {count : Nat} {mid : List Char}
    (hread : r.items (fields.map (·.toField)) count s cs = .ok (s', mid))
    (hend : endList mid = .ok rest) :
    ∃ text values, Listed SpellsString (count == 0) text values ∧
      giveAll fields s values = some s' ∧ cs = text ++ ']' :: rest := by
  induction fields generalizing count s cs with
  | nil =>
    cases hread
    obtain ⟨blank, hblank, rfl⟩ := endList_eq_ok_iff.mp hend
    exact ⟨blank, [], .nil hblank, rfl, rfl⟩
  | cons field fields ih =>
    rw [List.map_cons, Record.items] at hread
    obtain ⟨⟨more, cs'⟩, hnext, hitem⟩ := bind_eq_ok.mp hread
    rcases nextItem_cases hnext with ⟨blank, tail, hblank, rfl, rfl, rfl⟩ | ⟨lead, hlead, rfl, rfl⟩
    · simp only [Bool.false_eq_true, if_false, hshort, if_true] at hitem
      cases hitem
      cases hend
      exact ⟨blank, [], .nil hblank, rfl, rfl⟩
    · simp only [if_true] at hitem
      obtain ⟨⟨s₁, cs₁⟩, hfield, hothers⟩ := bind_eq_ok.mp hitem
      obtain ⟨v, hvalue, hput⟩ := (field.read_eq_ok_iff _ _ _ _).mp hfield
      obtain ⟨gap, value, hgap, hspells, rfl⟩ := readString_eq_ok_iff.mp hvalue
      obtain ⟨others, values, hlisted, hgive, rfl⟩ := ih hothers
      refine ⟨_, v :: values, .cons (hlead.append hgap) hspells hlisted, ?_, by simp⟩
      rw [giveAll, hput]
      exact hgive

/-- Values for the first fields are read up to the end of their list. -/
theorem Listed.items (hshort : r.short = true) {text : List Char} {values : List String}
    (hlisted : Listed SpellsString first text values)
    (hgive : giveAll fields s values = some s') {count : Nat} (hfirst : (count == 0) = first) :
    ∃ mid, r.items (fields.map (·.toField)) count s (text ++ ']' :: rest) = .ok (s', mid) ∧
      endList mid = .ok rest := by
  induction fields generalizing first text values s count with
  | nil =>
    cases hlisted with
    | nil hblank =>
      cases hgive
      exact ⟨_, rfl, endList_eq_ok_iff.mpr ⟨text, hblank, rfl⟩⟩
    | cons => cases hgive
  | cons field fields ih =>
    cases hlisted with
    | nil hblank =>
      cases hgive
      refine ⟨']' :: rest, ?_, rfl⟩
      rw [List.map_cons, Record.items, nextItem_end hblank]
      simp [ok_bind, hshort, pure, Except.pure]
    | @cons _ lead value others v values hlead hvalue hothers =>
      obtain ⟨s₁, hput, hgive⟩ := Option.bind_eq_some_iff.mp hgive
      obtain ⟨mid, hread, hend⟩ := ih hothers hgive (by simp : (count + 1 == 0) = false)
      refine ⟨mid, ?_, hend⟩
      have hnext : nextItem first (lead ++ (value ++ others) ++ ']' :: rest) =
          .ok (true, value ++ (others ++ ']' :: rest)) := by
        obtain ⟨tail, rfl⟩ := hvalue.exists_cons
        simpa using nextItem_lead hlead (by decide) (by decide)
      have hfield : field.read s (value ++ (others ++ ']' :: rest)) =
          .ok (s₁, others ++ ']' :: rest) :=
        (field.read_eq_ok_iff _ _ _ _).mpr
          ⟨v, readString_eq_ok_iff.mpr ⟨[], value, by simp [IsBlank], hvalue, rfl⟩, hput⟩
      rw [List.map_cons, Record.items, hfirst, hnext, ok_bind]
      simp only [if_true, hfield, ok_bind, hread]

/-! ## Documents -/

/-- The texts of a record in one of its two forms, and the state that it is read into: an object
of members that may be given, or the list of the values of the first fields. -/
inductive Gives (fields : List (TextField σ)) (s : σ) : List Char → σ → Prop
  | object {text : List Char} {entries : List (String × String)} {s' : σ}
      (h : Listed SpellsMember true text entries)
      (hgive : entries.foldlM (give fields) s = some s') :
      Gives fields s ('\x7b' :: (text ++ ['\x7d'])) s'
  | list {text : List Char} {values : List String} {s' : σ}
      (h : Listed SpellsString true text values) (hgive : giveAll fields s values = some s') :
      Gives fields s ('[' :: (text ++ [']'])) s'

/-- A spelled member has a character. -/
theorem SpellsMember.ne_nil {text : List Char} {m : String × String} (h : SpellsMember text m) :
    text ≠ [] := by
  obtain ⟨key, space, gap, value, hkey, -, -, -, rfl⟩ := h
  obtain ⟨tail, rfl⟩ := hkey.exists_cons
  simp

/-- The texts that are read as a record. -/
theorem Record.TakesTexts.read_eq_ok_iff (h : r.TakesTexts fields) {finish : σ → Except Fault α}
    {a : α} : r.read finish cs = .ok (a, rest) ↔
      ∃ blank text s, IsBlank blank ∧ Gives fields r.start text s ∧ finish s = .ok a ∧
        cs = blank ++ (text ++ rest) := by
  constructor
  · intro hread
    unfold Record.read at hread
    split at hread
    · cases hread
    · next tail hskip =>
      obtain ⟨blank, hblank, rfl⟩ := (skipBlank_eq_cons_iff (by decide)).mp hskip
      obtain ⟨⟨s, mid⟩, hitems, hread⟩ := bind_eq_ok.mp hread
      obtain ⟨a', hfinish, hread⟩ := bind_eq_ok.mp hread
      obtain ⟨rest', hend, hread⟩ := bind_eq_ok.mp hread
      cases hread
      rw [h.fields] at hitems
      obtain ⟨text, values, hlisted, hgive, rfl⟩ := listed_of_items h.short hitems hend
      exact ⟨blank, _, s, hblank, .list hlisted hgive, hfinish, by simp⟩
    · next tail hskip =>
      obtain ⟨blank, hblank, rfl⟩ := (skipBlank_eq_cons_iff (by decide)).mp hskip
      obtain ⟨⟨s, mid⟩, hmembers, hread⟩ := bind_eq_ok.mp hread
      obtain ⟨a', hfinish, hread⟩ := bind_eq_ok.mp hread
      obtain ⟨rest', hend, hread⟩ := bind_eq_ok.mp hread
      cases hread
      obtain ⟨text, entries, tail, hlisted, hgive, rfl, rfl⟩ := listed_of_members h hmembers
      cases hend
      exact ⟨blank, _, s, hblank, .object hlisted hgive, hfinish, by simp⟩
    · cases hread
  · rintro ⟨blank, text, s, hblank, hgives, hfinish, rfl⟩
    rw [Record.read, skipBlank_append hblank]
    cases hgives with
    | @object text entries _ hlisted hgive =>
      have hfuel : entries.length < (text ++ '\x7d' :: rest).length + 1 := by
        have hlength := hlisted.length_le fun _ _ hmember => hmember.ne_nil
        simp
        omega
      have hmembers : r.members _ true r.start (text ++ '\x7d' :: rest) = _ :=
        hlisted.members h hgive hfuel
      simp only [List.cons_append, List.append_assoc, List.nil_append,
        skipBlank_cons (by decide : isSpace '\x7b' = false), hmembers, hfinish, ok_bind]
      rfl
    | @list text values _ hlisted hgive =>
      obtain ⟨mid, hitems, hend⟩ : ∃ mid,
          r.items (fields.map (·.toField)) 0 r.start (text ++ ']' :: rest) = .ok (s, mid) ∧
            endList mid = .ok rest := hlisted.items h.short hgive rfl
      simp only [List.cons_append, List.append_assoc, List.nil_append,
        skipBlank_cons (by decide : isSpace '[' = false), h.fields, hitems, hfinish, hend, ok_bind]
      rfl

/-- A document is read if its value is and nothing but blanks follows. -/
theorem document_eq_ok_iff {read : Reader α} {text : String} {a : α} :
    document read text = .ok a ↔ ∃ rest, IsBlank rest ∧ read text.toList = .ok (a, rest) := by
  constructor
  · intro h
    obtain ⟨⟨a', rest⟩, hread, hend⟩ := bind_eq_ok.mp h
    dsimp only at hend
    split at hend
    · next hskip =>
      cases hend
      obtain ⟨blank, hblank, heq⟩ := exists_blank rest
      rw [hskip, List.append_nil] at heq
      exact ⟨rest, heq ▸ hblank, hread⟩
    · cases hend
  · rintro ⟨rest, hblank, hread⟩
    have hskip : skipBlank rest = [] := by simpa [skipBlank] using skipBlank_append hblank []
    rw [document, hread, ok_bind]
    simp [hskip, pure, Except.pure]

end EntityMapping.Json
