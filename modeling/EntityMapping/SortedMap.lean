/-!
# Maps in key order

Finite maps kept as lists of entries with strictly increasing keys, so that two maps with
the same bindings are equal and listing them gives the keys in order.

Main results:

- `SortedMap.get?_insert`: what a look-up finds after an insertion.
- `SortedMap.ext_get?`: maps with the same look-ups are equal.
- `SortedMap.mem_entries_iff`: the entries are exactly the bindings that look-ups find.
- `Entries.Sorted.nodup_keys`: every key has one entry.
-/

namespace EntityMapping

/-- A strict order of keys that decides. -/
class KeyOrder (κ : Type) where
  before : κ → κ → Bool
  before_irrefl : ∀ a, before a a = false
  before_trans : ∀ {a b c}, before a b = true → before b c = true → before a c = true
  before_connected : ∀ {a b}, before a b = false → before b a = false → a = b

/-- Texts are ordered by code points. -/
instance : KeyOrder String where
  before a b := decide (a < b)
  before_irrefl a := by simp
  before_trans hab hbc := by
    simp only [decide_eq_true_eq] at *
    exact String.lt_trans hab hbc
  before_connected hab hba := by
    simp only [decide_eq_false_iff_not] at *
    exact String.le_antisymm hba hab

/-! ## Entry lists -/

namespace Entries

variable {κ ν : Type} [KeyOrder κ]

open KeyOrder

/-- Bind a key in a list of entries that is in key order, replacing an older binding. -/
def insert (k : κ) (v : ν) : List (κ × ν) → List (κ × ν)
  | [] => [(k, v)]
  | e :: rest =>
    if before k e.1 then (k, v) :: e :: rest
    else if before e.1 k then e :: insert k v rest
    else (k, v) :: rest

/-- The value bound to a key. -/
def get? (k : κ) : List (κ × ν) → Option ν
  | [] => none
  | e :: rest => if before k e.1 || before e.1 k then get? k rest else some e.2

/-- The entries are in strictly increasing key order. -/
def Sorted (entries : List (κ × ν)) : Prop :=
  entries.Pairwise fun a b => before a.1 b.1 = true

/-- Keys of which none is before the other are equal. -/
theorem eq_of_not_before {a b : κ} (h : (before a b || before b a) = false) : a = b := by
  simp only [Bool.or_eq_false_iff] at h
  exact before_connected h.1 h.2

/-- Different keys are in order, one way or the other. -/
theorem before_or_of_ne {a b : κ} (h : a ≠ b) : (before a b || before b a) = true := by
  cases hab : before a b || before b a with
  | true => rfl
  | false => exact absurd (eq_of_not_before hab) h

/-- What is there after an insertion was inserted or was there before. -/
theorem mem_insert {k : κ} {v : ν} {entries : List (κ × ν)} {e : κ × ν}
    (h : e ∈ insert k v entries) : e = (k, v) ∨ e ∈ entries := by
  induction entries with
  | nil => simpa [insert] using h
  | cons d rest ih =>
    rw [insert] at h
    split at h
    · simpa using h
    · split at h
      · rcases List.mem_cons.mp h with h | h
        · simp [h]
        · rcases ih h with h | h <;> simp [h]
      · rcases List.mem_cons.mp h with h | h <;> simp [h]

/-- Insertion keeps entries sorted. -/
theorem sorted_insert (k : κ) (v : ν) {entries : List (κ × ν)} (h : Sorted entries) :
    Sorted (insert k v entries) := by
  induction entries with
  | nil => simp [insert, Sorted]
  | cons e rest ih =>
    obtain ⟨he, hrest⟩ := List.pairwise_cons.mp h
    rw [insert]
    split
    · next hk =>
      refine List.pairwise_cons.mpr ⟨?_, h⟩
      intro d hd
      rcases List.mem_cons.mp hd with rfl | hd
      · exact hk
      · exact before_trans hk (he d hd)
    · next hk =>
      split
      · next hk' =>
        refine List.pairwise_cons.mpr ⟨?_, ih hrest⟩
        intro d hd
        rcases mem_insert hd with rfl | hd
        · exact hk'
        · exact he d hd
      · next hk' =>
        have hkey : k = e.1 := before_connected (by simpa using hk) (by simpa using hk')
        exact List.pairwise_cons.mpr ⟨fun d hd => hkey ▸ he d hd, hrest⟩

/-- A key that is before all others is not found. -/
theorem get?_eq_none_of_before {k : κ} {entries : List (κ × ν)}
    (h : ∀ e ∈ entries, before k e.1 = true) : get? k entries = none := by
  induction entries with
  | nil => rfl
  | cons e rest ih =>
    have he := h e (List.mem_cons_self ..)
    simp [get?, he, ih fun d hd => h d (List.mem_cons_of_mem _ hd)]

/-- An inserted key has its value, and the others have theirs. -/
theorem get?_insert [DecidableEq κ] (k j : κ) (v : ν) {entries : List (κ × ν)} :
    get? j (insert k v entries) = if j = k then some v else get? j entries := by
  induction entries with
  | nil =>
    by_cases h : j = k
    · subst h; simp [insert, get?, before_irrefl]
    · simp [insert, get?, h, before_or_of_ne h]
  | cons e rest ih =>
    rw [insert]
    split
    · by_cases h : j = k
      · subst h; simp [get?, before_irrefl]
      · rw [get?, if_pos (before_or_of_ne h), if_neg h]
    · next hk =>
      split
      · next hk' =>
        rw [get?, ih]
        by_cases h : j = k
        · subst h; simp [hk']
        · rw [if_neg h, if_neg h, get?]
      · next hk' =>
        have hkey : k = e.1 := before_connected (by simpa using hk) (by simpa using hk')
        by_cases h : j = k
        · subst h; simp [get?, before_irrefl]
        · rw [get?, if_pos (before_or_of_ne h), if_neg h, get?, if_pos (hkey ▸ before_or_of_ne h)]

/-- In sorted entries a key has the value that stands beside it. -/
theorem get?_eq_some_iff {k : κ} {v : ν} {entries : List (κ × ν)} (h : Sorted entries) :
    get? k entries = some v ↔ (k, v) ∈ entries := by
  induction entries with
  | nil => simp [get?]
  | cons e rest ih =>
    obtain ⟨he, hrest⟩ := List.pairwise_cons.mp h
    rw [get?]
    split
    · next hk =>
      rw [ih hrest]
      constructor
      · exact List.mem_cons_of_mem _
      · intro hm
        rcases List.mem_cons.mp hm with rfl | hm
        · simp [before_irrefl] at hk
        · exact hm
    · next hk =>
      have hkey : k = e.1 := eq_of_not_before (by simpa using hk)
      constructor
      · intro hv
        have : v = e.2 := (Option.some.inj hv).symm
        subst hkey; subst this
        exact List.mem_cons_self ..
      · intro hm
        rcases List.mem_cons.mp hm with rfl | hm
        · rfl
        · have := he _ hm
          simp [← hkey, before_irrefl] at this

/-- Sorted entries are told by what is found in them. -/
theorem ext_get? {a b : List (κ × ν)} (ha : Sorted a) (hb : Sorted b)
    (h : ∀ k, get? k a = get? k b) : a = b := by
  induction a generalizing b with
  | nil =>
    cases b with
    | nil => rfl
    | cons e rest =>
      have := h e.1
      simp [get?, before_irrefl] at this
  | cons d as ih =>
    cases b with
    | nil =>
      have := h d.1
      simp [get?, before_irrefl] at this
    | cons e bs =>
      obtain ⟨hd, has⟩ := List.pairwise_cons.mp ha
      obtain ⟨he, hbs⟩ := List.pairwise_cons.mp hb
      have hde : d ∈ e :: bs := by
        rw [← get?_eq_some_iff hb, ← h]
        exact (get?_eq_some_iff ha).mpr (List.mem_cons_self ..)
      have hed : e ∈ d :: as := by
        rw [← get?_eq_some_iff ha, h]
        exact (get?_eq_some_iff hb).mpr (List.mem_cons_self ..)
      have heq : d = e := by
        rcases List.mem_cons.mp hde with rfl | hde
        · rfl
        · rcases List.mem_cons.mp hed with rfl | hed
          · rfl
          · have := before_trans (he _ hde) (hd _ hed)
            simp [before_irrefl] at this
      subst heq
      congr 1
      refine ih has hbs fun k => ?_
      have hk := h k
      rw [get?, get?] at hk
      split at hk
      · exact hk
      · next hne =>
        have hkey : k = d.1 := eq_of_not_before (by simpa using hne)
        rw [hkey, get?_eq_none_of_before fun x hx => hd x hx,
          get?_eq_none_of_before fun x hx => he x hx]

/-- The keys of entries in key order are different. -/
theorem Sorted.nodup_keys {entries : List (κ × ν)} (h : Sorted entries) :
    (entries.map (·.1)).Nodup := by
  rw [List.Nodup, List.pairwise_map]
  refine h.imp fun {a b} hbefore heq => ?_
  rw [heq, before_irrefl] at hbefore
  cases hbefore

/-- A look-up finds the first entry of a key. -/
theorem get?_eq_find? [BEq κ] [LawfulBEq κ] (key : κ) (entries : List (κ × ν)) :
    get? key entries = (entries.find? (·.1 == key)).map (·.2) := by
  induction entries with
  | nil => rfl
  | cons e rest ih =>
    rw [get?, List.find?_cons]
    by_cases h : e.1 = key
    · subst h
      simp [before_irrefl]
    · have hne : (e.1 == key) = false := beq_eq_false_iff_ne.mpr h
      rw [if_pos (before_or_of_ne (Ne.symm h)), hne, ih]

/-- A key is found exactly if it is there. -/
theorem get?_isSome_iff [BEq κ] [LawfulBEq κ] (key : κ) (entries : List (κ × ν)) :
    (get? key entries).isSome = true ↔ key ∈ entries.map (·.1) := by
  simp [get?_eq_find?, List.find?_isSome]

end Entries

/-! ## Maps -/

/-- A finite map whose entries are in key order. -/
structure SortedMap (κ ν : Type) [KeyOrder κ] where
  entries : List (κ × ν)
  sorted : Entries.Sorted entries

namespace SortedMap

variable {κ ν : Type} [KeyOrder κ]

/-- The map without bindings. -/
def empty : SortedMap κ ν := ⟨[], List.Pairwise.nil⟩

/-- The value bound to a key. -/
def get? (m : SortedMap κ ν) (k : κ) : Option ν := Entries.get? k m.entries

/-- Whether the key is bound. -/
def contains (m : SortedMap κ ν) (k : κ) : Bool := (m.get? k).isSome

/-- Bind a key, replacing an older binding. -/
def insert (m : SortedMap κ ν) (k : κ) (v : ν) : SortedMap κ ν :=
  ⟨Entries.insert k v m.entries, Entries.sorted_insert k v m.sorted⟩

/-- The keys in order. -/
def keys (m : SortedMap κ ν) : List κ := m.entries.map (·.1)

/-- The number of bindings. -/
def size (m : SortedMap κ ν) : Nat := m.entries.length

/-- A key is missing exactly if nothing is found for it. -/
theorem contains_eq_false_iff (m : SortedMap κ ν) (k : κ) :
    m.contains k = false ↔ m.get? k = none := by
  simp [contains]

@[simp]
theorem get?_empty (k : κ) : (empty : SortedMap κ ν).get? k = none := rfl

@[simp]
theorem get?_insert [DecidableEq κ] (m : SortedMap κ ν) (k j : κ) (v : ν) :
    (m.insert k v).get? j = if j = k then some v else m.get? j :=
  Entries.get?_insert k j v

/-- The entries are exactly the bindings that look-ups find. -/
theorem mem_entries_iff (m : SortedMap κ ν) (k : κ) (v : ν) :
    (k, v) ∈ m.entries ↔ m.get? k = some v :=
  (Entries.get?_eq_some_iff m.sorted).symm

/-- Maps with the same look-ups are equal. -/
theorem ext_get? {a b : SortedMap κ ν} (h : ∀ k, a.get? k = b.get? k) : a = b := by
  have := Entries.ext_get? a.sorted b.sorted h
  cases a; cases b; simp_all

end SortedMap

end EntityMapping
