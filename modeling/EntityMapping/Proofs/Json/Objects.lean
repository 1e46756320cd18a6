import EntityMapping.Json.Value
import Mathlib.Data.List.Dedup
import Mathlib.Data.List.Nodup

/-!
# Objects in normal form

The normal form of an object has each key once and in key order.  Where a key is given several
times, the value given last stays.

Main results:

- `Json.member?_normal`: the value under a key is the last one given.
- `Json.mem_keys_normal`, `Json.length_normalMembers`: the keys are those given, each once.
- `Json.member?_normal_of_nodup`: if no key is repeated, nothing is lost.
-/

namespace EntityMapping.Json

variable {members : List (String × Json)} {key : String}

/-- The value under a key in the members of a list, the last one of equal keys. -/
def last? (key : String) (members : List (String × Json)) : Option Json :=
  (members.reverse.find? (·.1 == key)).map (·.2)

/-- A key has a last value exactly if it is among the keys. -/
theorem last?_isSome_iff : (last? key members).isSome = true ↔ key ∈ members.map (·.1) := by
  simp [last?, List.find?_isSome]

/-- Each member takes precedence over what was there before it. -/
theorem get?_normalMembers (key : String) (acc members : List (String × Json)) :
    Entries.get? key (normalMembers acc members) =
      ((last? key members).map normal).or (Entries.get? key acc) := by
  induction members generalizing acc with
  | nil => simp [normalMembers, last?]
  | cons m rest ih =>
    obtain ⟨k, v⟩ := m
    rw [normalMembers, ih, Entries.get?_insert, last?, last?, List.reverse_cons,
      List.find?_append, Option.map_or, Option.map_or, Option.or_assoc]
    by_cases hk : key = k
    · simp [hk]
    · have hne : (k == key) = false := beq_eq_false_iff_ne.mpr (Ne.symm hk)
      simp [hk, hne]

/-- The value under a key of a normal object is the last one given, in normal form. -/
theorem member?_normal (key : String) (members : List (String × Json)) :
    (object members).normal.member? key = (last? key members).map normal := by
  rw [normal, member?, ← Entries.get?_eq_find?, get?_normalMembers]
  simp [Entries.get?]

/-- The keys of a normal object are those given. -/
theorem mem_keys_normal :
    key ∈ (normalMembers [] members).map (·.1) ↔ key ∈ members.map (·.1) := by
  rw [← Entries.get?_isSome_iff, get?_normalMembers, ← last?_isSome_iff]
  simp [Entries.get?]

/-- A normal object has each key once. -/
theorem nodup_keys_normal (members : List (String × Json)) :
    ((normalMembers [] members).map (·.1)).Nodup :=
  (normalMembers_sorted List.Pairwise.nil).nodup_keys

/-- A normal object has as many keys as there are different ones. -/
theorem length_normalMembers (members : List (String × Json)) :
    (normalMembers [] members).length = (members.map (·.1)).dedup.length := by
  have hsame : ((normalMembers [] members).map (·.1)).Perm (members.map (·.1)).dedup :=
    (List.perm_ext_iff_of_nodup (nodup_keys_normal members) (List.nodup_dedup _)).mpr fun key => by
      rw [List.mem_dedup, mem_keys_normal]
  rw [← hsame.length_eq, List.length_map]

/-- Without repeated keys the last value under a key is the first. -/
theorem last?_of_nodup (h : (members.map (·.1)).Nodup) :
    last? key members = (object members).member? key := by
  have hfind : members.reverse.find? (·.1 == key) = members.find? (·.1 == key) := by
    induction members with
    | nil => rfl
    | cons m rest ih =>
      rw [List.map_cons, List.nodup_cons] at h
      rw [List.reverse_cons, List.find?_append, ih h.2, List.find?_cons, List.find?_cons]
      by_cases hm : m.1 = key
      · have hnone : rest.find? (·.1 == key) = none := by
          rw [List.find?_eq_none]
          rintro n hn hkey
          exact h.1 (hm ▸ eq_of_beq hkey ▸ List.mem_map_of_mem hn)
        simp [hm, hnone]
      · have hne : (m.1 == key) = false := beq_eq_false_iff_ne.mpr hm
        simp [hne]
  rw [last?, hfind, member?]

/-- Without repeated keys the normal form keeps every member. -/
theorem member?_normal_of_nodup (h : (members.map (·.1)).Nodup) :
    (object members).normal.member? key = ((object members).member? key).map normal := by
  rw [member?_normal, last?_of_nodup h]

end EntityMapping.Json
