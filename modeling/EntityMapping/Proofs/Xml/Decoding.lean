import EntityMapping.Xml.Escape

/-!
# Reading attribute values

An attribute value is read by replacing its references to the predefined entities with the
characters they stand for.  An ampersand that starts no such reference makes the value
unreadable.

Main results:

- `Xml.decode_append`: parts of a value that can be read are read one after the other.
- `Xml.decode_of_plain`: a value without ampersands is read as it is.
- `Xml.decode_escape`: an escaped text is read as the text.
- `Xml.plain_of_decode_self`: only a value without ampersands is read as it is.
-/

namespace EntityMapping.Xml

/-! ## References -/

/-- The names of the predefined entities and the characters they stand for. -/
def entities : List (List Char × Char) :=
  [("amp".toList, '&'), ("lt".toList, '<'), ("gt".toList, '>'), ("quot".toList, '"'),
    ("apos".toList, '\'')]

/-- The rest of a value, behind the start of the name of a reference if there is one. -/
def decodeFrom : Option (List Char) → List Char → Option (List Char)
  | none, [] => some []
  | some _, [] => none
  | none, c :: rest =>
    if c = '&' then decodeFrom (some []) rest else (decodeFrom none rest).map (c :: ·)
  | some name, c :: rest =>
    if c = ';' then
      (entities.lookup name).bind fun d => (decodeFrom none rest).map (d :: ·)
    else decodeFrom (some (name ++ [c])) rest

/-- The text for which a value stands, if all its references can be read. -/
def decode (value : List Char) : Option (List Char) := decodeFrom none value

/-! ## Laws -/

variable {value text : List Char}

/-- What follows a part that can be read is read on its own. -/
theorem decodeFrom_append {name? : Option (List Char)} (h : decodeFrom name? value = some text)
    (rest : List Char) :
    decodeFrom name? (value ++ rest) = (decodeFrom none rest).map (text ++ ·) := by
  induction value generalizing name? text with
  | nil =>
    cases name? with
    | none =>
      cases h
      simp
    | some name => cases h
  | cons c value ih =>
    cases name? with
    | none =>
      rw [List.cons_append, decodeFrom]
      rw [decodeFrom] at h
      by_cases hc : c = '&'
      · rw [if_pos hc] at h ⊢
        exact ih h
      · rw [if_neg hc] at h ⊢
        obtain ⟨others, hothers, rfl⟩ := Option.map_eq_some_iff.mp h
        rw [ih hothers, Option.map_map]
        rfl
    | some name =>
      rw [List.cons_append, decodeFrom]
      rw [decodeFrom] at h
      by_cases hc : c = ';'
      · rw [if_pos hc] at h ⊢
        obtain ⟨d, hd, h⟩ := Option.bind_eq_some_iff.mp h
        obtain ⟨others, hothers, rfl⟩ := Option.map_eq_some_iff.mp h
        rw [hd, Option.bind_some, ih hothers, Option.map_map]
        rfl
      · rw [if_neg hc] at h ⊢
        exact ih h

/-- Parts that can be read are read one after the other. -/
theorem decode_append {value' text' : List Char} (h : decode value = some text)
    (h' : decode value' = some text') : decode (value ++ value') = some (text ++ text') := by
  rw [decode, decodeFrom_append h]
  exact congrArg (Option.map (text ++ ·)) h'

/-- A value without ampersands is read as it is. -/
theorem decode_of_plain (h : '&' ∉ value) : decode value = some value := by
  induction value with
  | nil => rfl
  | cons c rest ih =>
    rw [List.mem_cons, not_or] at h
    rw [decode, decodeFrom, if_neg (Ne.symm h.1)]
    exact congrArg (Option.map (c :: ·)) (ih h.2)

/-- What is written for a character stands for it. -/
theorem decode_escapeChar (c : Char) : decode (escapeChar c) = some [c] := by
  unfold escapeChar
  split
  · next h =>
    subst h
    decide
  · split
    · next h =>
      subst h
      decide
    · split
      · next h =>
        subst h
        decide
      · split
        · next h =>
          subst h
          decide
        · next hampersand _ _ _ => exact decode_of_plain (by simpa using Ne.symm hampersand)

/-- An escaped text is read as the text. -/
theorem decode_escape (s : String) : decode (escape s).toList = some s.toList := by
  rw [toList_escape]
  induction s.toList with
  | nil => rfl
  | cons c rest ih =>
    rw [List.flatMap_cons]
    exact decode_append (decode_escapeChar c) ih

/-- Reading never gives more characters than it takes. -/
theorem length_decodeFrom {name? : Option (List Char)} (h : decodeFrom name? value = some text) :
    text.length ≤ value.length := by
  induction value generalizing name? text with
  | nil =>
    cases name? with
    | none =>
      cases h
      exact Nat.le_refl _
    | some name => cases h
  | cons c rest ih =>
    cases name? with
    | none =>
      rw [decodeFrom] at h
      split at h
      · exact Nat.le_succ_of_le (ih h)
      · obtain ⟨others, hothers, rfl⟩ := Option.map_eq_some_iff.mp h
        exact Nat.succ_le_succ (ih hothers)
    | some name =>
      rw [decodeFrom] at h
      split at h
      · obtain ⟨d, _, h⟩ := Option.bind_eq_some_iff.mp h
        obtain ⟨others, hothers, rfl⟩ := Option.map_eq_some_iff.mp h
        exact Nat.succ_le_succ (ih hothers)
      · exact Nat.le_succ_of_le (ih h)

/-- Only a value without ampersands is read as it is. -/
theorem plain_of_decode_self (h : decode value = some value) : '&' ∉ value := by
  induction value with
  | nil => exact List.not_mem_nil
  | cons c rest ih =>
    rw [decode, decodeFrom] at h
    split at h
    · have hlength := length_decodeFrom h
      simp only [List.length_cons] at hlength
      omega
    · next hc =>
      obtain ⟨others, hothers, heq⟩ := Option.map_eq_some_iff.mp h
      cases heq
      rw [List.mem_cons, not_or]
      exact ⟨Ne.symm hc, ih hothers⟩

/-- Items with a readable text between them are read item by item. -/
theorem decode_intercalate {α : Type} {separator separator' : List Char} {items : List α}
    {print print' : α → List Char} (hseparator : decode separator = some separator')
    (hitems : ∀ item ∈ items, decode (print item) = some (print' item)) :
    decode (separator.intercalate (items.map print)) =
      some (separator'.intercalate (items.map print')) := by
  induction items with
  | nil => rfl
  | cons item rest ih =>
    have hitem := hitems item List.mem_cons_self
    have hrest := ih fun other hother => hitems other (List.mem_cons_of_mem _ hother)
    cases rest with
    | nil => simpa using hitem
    | cons next rest =>
      simp only [List.map_cons, List.intercalate_cons_cons] at hrest ⊢
      exact decode_append (decode_append hitem hseparator) hrest

end EntityMapping.Xml
