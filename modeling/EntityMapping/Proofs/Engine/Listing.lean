import EntityMapping.Generation.Basic
import EntityMapping.Proofs.Engine.Calls

/-!
# Lists between commas

Assignments, and the columns and the values of an insertion, are lists between commas.  A
template writes such a list in one of two ways: it puts commas between all items, or it ends
each item that counts in a comma and has the last comma taken off.

Main results:

- `Sql.wrapped_terminated`, `Sql.setOf_join`: both ways come to the list of the items.
- `Template.Gives.concatPresent`: the items that count are those whose values are not null.
-/

namespace EntityMapping

namespace Sql

variable {a b : Sql} {items : List Sql}

/-- Items with commas between them, and a text before and after; nothing without items.
Blanks before the first item do not count. -/
def listed (front back : String) (items : List Sql) : Sql :=
  if items.isEmpty then [] else text front ++ trimStart (join "," items) ++ text back

/-- Items that each end in a comma. -/
def terminated (items : List Sql) : Sql := items.flatMap fun item => item ++ text ","

/-- A list with items stands between its front and its back. -/
theorem listed_of_ne_nil (h : items ≠ []) (front back : String) :
    listed front back items = text front ++ trimStart (join "," items) ++ text back := by
  rw [listed, if_neg (by simpa using h)]

/-! ## Ends -/

@[simp]
theorem withoutStart_empty (sql : Sql) : withoutStart "" sql = sql := rfl

@[simp]
theorem withoutEnd_append (ending : String) (sql : Sql) :
    withoutEnd ending (sql ++ text ending) = sql := by
  have hreverse : (sql ++ text ending).reverse =
      ending.toList.reverse.map Piece.char ++ sql.reverse := by
    simp [text]
  rw [withoutEnd, hreverse, after?_append]
  simp

/-- Blanks at the start are looked for in front of a visible piece only. -/
theorem trimStart_append (a : Sql) (h : trimStart b = b) :
    trimStart (a ++ b) = trimStart a ++ b := by
  simp only [trimStart] at h ⊢
  rw [List.dropWhile_append]
  split
  · next hblank =>
    rw [h, List.isEmpty_iff.mp hblank, List.nil_append]
  · rfl

/-- A visible piece at the end of SQL ends it when it is trimmed. -/
theorem trim_concat (sql : Sql) {piece : Piece} (h : piece.isBlank = false) :
    trim (sql ++ [piece]) = trimStart sql ++ [piece] := by
  have hstart : trimStart [piece] = [piece] := by
    simp [trimStart, h]
  have hend : trimEnd [piece] = [piece] := by
    simp [trimEnd, List.rdropWhile, h]
  rw [trim, trimStart_append sql hstart, trimEnd_append _ ⟨piece, List.mem_singleton_self _, h⟩,
    hend]

/-- SQL that starts with a visible piece stays as it is at its start. -/
theorem trimStart_of_visible {piece : Piece} (h : piece.isBlank = false) (rest : Sql) :
    trimStart (piece :: rest) = piece :: rest := by
  simp [trimStart, h]

/-! ## Items that end in commas -/

/-- Items that each end in a comma are the joined items and a last comma. -/
theorem terminated_eq_join (h : items ≠ []) : terminated items = join "," items ++ text "," := by
  induction items with
  | nil => exact absurd rfl h
  | cons item rest ih =>
    cases rest with
    | nil => simp [terminated]
    | cons next rest =>
      have hrest := ih (List.cons_ne_nil next rest)
      rw [terminated] at hrest ⊢
      rw [List.flatMap_cons, hrest, join_cons_cons, ← List.append_assoc]

/-- Items that each end in a comma come to their list when the last comma is taken off. -/
theorem wrapped_terminated (front back : String) (items : List Sql) :
    wrapped front "" back "," (terminated items) = listed front back items := by
  by_cases h : items = []
  · subst h
    rfl
  · have htrim : trim (terminated items) = trimStart (join "," items) ++ text "," := by
      rw [terminated_eq_join h]
      exact trim_concat _ (by decide)
    have hne : (trimStart (join "," items) ++ text ",").isEmpty = false := by
      simp [text]
    rw [wrapped, htrim, listed_of_ne_nil h]
    simp [hne]

/-- Assignments that each end in a comma make the clause of their list. -/
theorem setOf_terminated (items : List Sql) : setOf (terminated items) = listed "set " "" items :=
  wrapped_terminated "set " "" items

/-! ## Items that end in values -/

/-- The last piece of the SQL is a bound value. -/
def EndsInValue (sql : Sql) : Prop := ∃ front value type?, sql = front ++ [.bound value type?]

/-- SQL in front of a value at the end does not change the end. -/
theorem EndsInValue.append (h : b.EndsInValue) (a : Sql) : (a ++ b).EndsInValue := by
  obtain ⟨front, value, type?, rfl⟩ := h
  exact ⟨a ++ front, value, type?, (List.append_assoc ..).symm⟩

/-- SQL to which a bound value is added ends in it. -/
theorem endsInValue_bound (a : Sql) (value : Json) (type? : Option JdbcType) :
    EndsInValue (a ++ [.bound value type?]) := ⟨a, value, type?, rfl⟩

/-- Joined items end in a value if each of them does. -/
theorem endsInValue_join (separator : String) (hne : items ≠ [])
    (h : ∀ item ∈ items, item.EndsInValue) : (join separator items).EndsInValue := by
  induction items with
  | nil => exact absurd rfl hne
  | cons item rest ih =>
    cases rest with
    | nil => simpa using h item List.mem_cons_self
    | cons next rest =>
      rw [join_cons_cons]
      exact (ih (List.cons_ne_nil next rest) fun other hother =>
        h other (List.mem_cons_of_mem item hother)).append _

/-- Joined assignments make the clause of their list: no comma stands at their end. -/
theorem setOf_join (h : ∀ item ∈ items, item.EndsInValue) :
    setOf (join "," items) = listed "set " "" items := by
  by_cases hne : items = []
  · subst hne
    rfl
  · obtain ⟨front, value, type?, hjoin⟩ := endsInValue_join "," hne h
    have htrim : trim (join "," items) = trimStart front ++ [.bound value type?] := by
      rw [hjoin]
      exact trim_concat front rfl
    have hstart : trimStart (join "," items) = trimStart front ++ [.bound value type?] := by
      rw [hjoin]
      exact trimStart_append front rfl
    have hend : withoutEnd "," (trimStart front ++ [.bound value type?]) =
        trimStart front ++ [.bound value type?] := by
      simp [withoutEnd, after?]
    rw [setOf, wrapped, htrim, listed_of_ne_nil hne, hstart]
    simp [hend]

/-- Values need no trimming. -/
theorem trimStart_join_values {α : Type} (value : α → Json) (type? : α → Option JdbcType)
    (items : List α) :
    trimStart (join "," (items.map fun item => [.bound (value item) (type? item)])) =
      join "," (items.map fun item => [.bound (value item) (type? item)]) := by
  cases items with
  | nil => rfl
  | cons item rest =>
    rw [List.map_cons, join_cons]
    exact trimStart_of_visible rfl _

end Sql

/-! ## Templates of lists -/

namespace Template

variable {s : Scope} {body : Template} {sql : Sql}

/-- A set clause gives what its body gives, without the comma at its end. -/
theorem Gives.setClause (h : body.Gives s sql) :
    (Template.setClause body).Gives s (Sql.setOf sql) := by
  rw [Gives] at *
  rw [eval_setClause, h]

/-- A trimmed part gives what its body gives, wrapped and with its ends dropped. -/
theorem Gives.trim (settings : List (TrimSetting × String)) (h : body.Gives s sql) :
    (Template.trim settings body).Gives s
      (Sql.wrapped (trimText settings .front) (trimText settings .frontDropped)
        (trimText settings .back) (trimText settings .backDropped) sql) := by
  rw [Gives] at *
  rw [eval_trim, h]

/-- Of the parts that count if their values are not null, those with such values are left. -/
theorem Gives.concatPresent {α : Type} {items : List α} {t : α → Template} {sql : α → Sql}
    (path : α → String) (h : ∀ item ∈ items, (t item).Gives s (sql item)) :
    (Template.concat (items.map fun item => Generation.whenPresent (path item) (t item))).Gives s
      ((items.filter fun item => !(s.value (path item)).isNull).flatMap sql) := by
  induction items with
  | nil => exact eval_empty
  | cons item rest ih =>
    have hitem := h item List.mem_cons_self
    have hrest := ih fun other hother => h other (List.mem_cons_of_mem item hother)
    have htest : s.passes (.notNull [path item]) = !(s.value (path item)).isNull := by
      simp [Scope.passes]
    rw [List.map_cons, Template.concat]
    cases hnull : (s.value (path item)).isNull with
    | true =>
      have hskipped : (Generation.whenPresent (path item) (t item)).Gives s [] :=
        eval_guard_of_not (by rw [htest, hnull]; rfl) _
      simpa [hnull] using hskipped.append hrest
    | false =>
      have hkept : (Generation.whenPresent (path item) (t item)).Gives s (sql item) :=
        (eval_guard_of_passes (by rw [htest, hnull]; rfl) _).trans hitem
      simpa [hnull] using hkept.append hrest

end Template

end EntityMapping
