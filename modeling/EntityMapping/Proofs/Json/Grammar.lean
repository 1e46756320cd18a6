import EntityMapping.Proofs.Fallible
import EntityMapping.Proofs.Json.Lexemes

/-!
# Values that are skipped

The texts of JSON values, with blanks wherever they may stand.  The value of a key that does not
matter is skipped as a whole, whatever it is: a number, a string with any escapes, or a list or
an object of any depth.

Main results:

- `IsContent.skipStringBody`: a string is skipped to its closing quote.
- `IsValue.skipAny`: a value is skipped to its end.
-/

namespace EntityMapping.Json

variable {text rest : List Char}

/-! ## Blanks -/

/-- Blanks only. -/
def IsBlank (cs : List Char) : Prop := ∀ c ∈ cs, isSpace c = true

/-- Blanks in front are skipped. -/
theorem skipBlank_append {blank : List Char} (h : IsBlank blank) (cs : List Char) :
    skipBlank (blank ++ cs) = skipBlank cs := by
  rw [skipBlank, List.dropWhile_append_of_pos h, skipBlank]

/-- Nothing is skipped in front of a visible character. -/
theorem skipBlank_cons {c : Char} (h : isSpace c = false) (cs : List Char) :
    skipBlank (c :: cs) = c :: cs := by
  simp [skipBlank, h]

/-- A number may end before blanks and a mark that is part of no number. -/
theorem EndsNumber.of_blank {blank : List Char} (h : IsBlank blank) (hrest : EndsNumber rest) :
    EndsNumber (blank ++ rest) := by
  cases blank with
  | nil => exact hrest
  | cons c blank =>
    have hc : isSpace c = true := h c (List.mem_cons_self ..)
    simp only [isSpace, Bool.or_eq_true, beq_iff_eq] at hc
    rcases hc with ((rfl | rfl) | rfl) | rfl <;> simp [EndsNumber]

/-! ## Strings -/

/-- What may stand between the quotes of a string. -/
inductive IsContent : List Char → Prop
  | nil : IsContent []
  | plain {c : Char} {cs : List Char} (hquote : c ≠ '"') (hslash : c ≠ '\\')
      (hvisible : 0x20 ≤ c.toNat) (h : IsContent cs) : IsContent (c :: cs)
  | letter {c : Char} {cs : List Char} (hc : c ∈ ['"', '\\', '/', 'b', 'f', 'n', 'r', 't'])
      (h : IsContent cs) : IsContent ('\\' :: c :: cs)
  | code {quad cs : List Char} (hlength : quad.length = 4)
      (hquad : ∀ d ∈ quad, (Text.hexValue? d).isSome) (h : IsContent cs) :
      IsContent ('\\' :: 'u' :: (quad ++ cs))

/-- A hexadecimal digit is one byte long. -/
theorem utf8Size_of_hexValue? {d : Char} (h : (Text.hexValue? d).isSome) : d.utf8Size = 1 := by
  have hascii {bound : Char} (hd : d ≤ bound) (hbound : bound.val.toNat ≤ 127) :
      d.utf8Size = 1 := by
    rw [Char.utf8Size_eq_one_iff, UInt32.le_iff_toNat_le]
    exact Nat.le_trans (UInt32.le_iff_toNat_le.mp hd) hbound
  unfold Text.hexValue? at h
  split_ifs at h with hdigit hlower hupper
  · exact hascii hdigit.2 (by decide)
  · exact hascii hlower.2 (by decide)
  · exact hascii hupper.2 (by decide)
  · cases h

/-- Four hexadecimal digits are read, whatever they stand for. -/
theorem hexQuad_isOk {quad : List Char} (hlength : quad.length = 4)
    (hquad : ∀ d ∈ quad, (Text.hexValue? d).isSome) : ∃ n, hexQuad (quad ++ rest) = .ok n := by
  match quad, hlength with
  | [a, b, c, d], _ =>
    simp only [List.forall_mem_cons, List.not_mem_nil, false_implies, implies_true, and_true]
      at hquad
    obtain ⟨ha, hb, hc, hd⟩ := hquad
    have hbytes : byteCount [a, b, c, d] = 4 := by
      simp [byteCount, utf8Size_of_hexValue? ha, utf8Size_of_hexValue? hb,
        utf8Size_of_hexValue? hc, utf8Size_of_hexValue? hd]
    obtain ⟨va, hva⟩ := Option.isSome_iff_exists.mp ha
    obtain ⟨vb, hvb⟩ := Option.isSome_iff_exists.mp hb
    obtain ⟨vc, hvc⟩ := Option.isSome_iff_exists.mp hc
    obtain ⟨vd, hvd⟩ := Option.isSome_iff_exists.mp hd
    exact ⟨((va * 16 + vb) * 16 + vc) * 16 + vd, by simp [hexQuad, hbytes, hva, hvb, hvc, hvd]⟩

/-- Characters that an escape has taken already are passed over. -/
theorem skipStringBody_skip (tail rest : List Char) :
    skipStringBody tail.length (tail ++ rest) = skipStringBody 0 rest := by
  induction tail with
  | nil => rfl
  | cons c tail ih => exact ih

/-- A string is skipped to its closing quote. -/
theorem IsContent.skipStringBody {content : List Char} (h : IsContent content) :
    skipStringBody 0 (content ++ '"' :: rest) = .ok rest := by
  induction h with
  | nil => rfl
  | plain hquote hslash hvisible _ ih =>
    simpa [Json.skipStringBody, hquote, hslash, Nat.not_lt.mpr hvisible] using ih
  | @letter c cs hc _ ih =>
    have hu : c ≠ 'u' := by rintro rfl; simp at hc
    simp [Json.skipStringBody, hc, ih]
  | @code quad cs hlength hquad _ ih =>
    obtain ⟨n, hn⟩ : ∃ n, hexQuad (quad ++ (cs ++ '"' :: rest)) = .ok n :=
      hexQuad_isOk hlength hquad
    have hskip := skipStringBody_skip ('u' :: quad) (cs ++ '"' :: rest)
    rw [List.length_cons, hlength] at hskip
    simpa [Json.skipStringBody, hn, ih] using hskip

/-! ## Values -/

mutual

/-- The text of a value. -/
inductive IsValue : List Char → Prop
  | null : IsValue ['n', 'u', 'l', 'l']
  | yes : IsValue ['t', 'r', 'u', 'e']
  | no : IsValue ['f', 'a', 'l', 's', 'e']
  | number {number : List Char} (h : IsNumber number) : IsValue number
  | string {content : List Char} (h : IsContent content) : IsValue ('"' :: (content ++ ['"']))
  | emptyList {blank : List Char} (h : IsBlank blank) : IsValue ('[' :: (blank ++ [']']))
  | list {items : List Char} (h : IsItems items) : IsValue ('[' :: (items ++ [']']))
  | emptyObject {blank : List Char} (h : IsBlank blank) :
      IsValue ('\x7b' :: (blank ++ ['\x7d']))
  | object {members : List Char} (h : IsMembers members) :
      IsValue ('\x7b' :: (members ++ ['\x7d']))

/-- The text of the items of a list, at least one. -/
inductive IsItems : List Char → Prop
  | last {before value after : List Char} (hbefore : IsBlank before) (h : IsValue value)
      (hafter : IsBlank after) : IsItems (before ++ value ++ after)
  | more {before value after items : List Char} (hbefore : IsBlank before) (h : IsValue value)
      (hafter : IsBlank after) (hitems : IsItems items) :
      IsItems (before ++ value ++ after ++ ',' :: items)

/-- The text of the members of an object, at least one. -/
inductive IsMembers : List Char → Prop
  | last {before key space gap value after : List Char} (hbefore : IsBlank before)
      (hkey : IsContent key) (hspace : IsBlank space) (hgap : IsBlank gap) (h : IsValue value)
      (hafter : IsBlank after) :
      IsMembers (before ++ '"' :: (key ++ '"' :: (space ++ ':' :: (gap ++ value ++ after))))
  | more {before key space gap value after members : List Char} (hbefore : IsBlank before)
      (hkey : IsContent key) (hspace : IsBlank space) (hgap : IsBlank gap) (h : IsValue value)
      (hafter : IsBlank after) (hmembers : IsMembers members) :
      IsMembers (before ++ '"' :: (key ++ '"' :: (space ++ ':' ::
        (gap ++ value ++ after ++ ',' :: members))))

end

/-- A number begins with a sign or a digit. -/
theorem IsNumber.exists_cons {number : List Char} (h : IsNumber number) :
    ∃ c cs, number = c :: cs ∧ (c = '-' ∨ c.isDigit = true) := by
  obtain ⟨hsign, hwhole, -, -⟩ := h
  rcases hsign with rfl | rfl
  · obtain ⟨d, ds, rfl, hd⟩ := hwhole.exists_cons
    exact ⟨d, _, rfl, .inr hd⟩
  · exact ⟨'-', _, rfl, .inl rfl⟩

/-- What begins a number begins nothing else. -/
theorem ne_of_beginsNumber {c d : Char} (hc : c = '-' ∨ c.isDigit = true)
    (hd : d ≠ '-' ∧ d.isDigit = false) : c ≠ d := by
  rintro rfl
  simp [hd] at hc

/-- A value begins visibly, and not with a closing bracket. -/
theorem IsValue.exists_cons (h : IsValue text) :
    ∃ c cs, text = c :: cs ∧ isSpace c = false ∧ c ≠ ']' ∧ c ≠ '\x7d' := by
  cases h with
  | number h =>
    obtain ⟨c, cs, rfl, hc⟩ := h.exists_cons
    refine ⟨c, cs, rfl, ?_, ne_of_beginsNumber hc (by decide), ne_of_beginsNumber hc (by decide)⟩
    rcases hc with rfl | hdigit
    · decide
    · exact isSpace_of_isDigit hdigit
  | _ => exact ⟨_, _, rfl, by decide⟩

/-! ## Skipping -/

/-- A number may end before blanks and a mark between values. -/
theorem endsNumber_mark {blank : List Char} (h : IsBlank blank) {mark : Char}
    (hmark : mark ∈ [',', ']', '\x7d']) (rest : List Char) :
    EndsNumber (blank ++ mark :: rest) := by
  refine EndsNumber.of_blank h ?_
  simp only [List.mem_cons, List.not_mem_nil, or_false] at hmark
  rcases hmark with rfl | rfl | rfl <;> simp [EndsNumber]

/-- Blanks in front of a value are skipped. -/
theorem skipValue_blank {blank : List Char} (h : IsBlank blank) (fuel : Nat) (cs : List Char) :
    skipValue fuel (blank ++ cs) = skipValue fuel cs := by
  cases fuel with
  | zero => rfl
  | succ fuel => simp only [skipValue, skipBlank_append h]

/-- Blanks in front of the items of a list make no difference. -/
theorem skipItems_skipBlank (fuel : Nat) (cs : List Char) :
    skipItems fuel (skipBlank cs) = skipItems fuel cs := by
  have hvalue (fuel : Nat) : skipValue fuel (skipBlank cs) = skipValue fuel cs := by
    cases fuel with
    | zero => rfl
    | succ fuel => simp only [skipValue, skipBlank_idem]
  cases fuel with
  | zero => rfl
  | succ fuel => simp only [skipItems, hvalue]

/-- Blanks in front of the members of an object make no difference. -/
theorem skipMembers_skipBlank (fuel : Nat) (cs : List Char) :
    skipMembers fuel (skipBlank cs) = skipMembers fuel cs := by
  cases fuel with
  | zero => rfl
  | succ fuel => simp only [skipMembers, skipBlank_idem]

/-- A number is skipped up to what cannot belong to it. -/
theorem IsNumber.skip {number : List Char} (h : IsNumber number) (hrest : EndsNumber rest)
    (fuel : Nat) : skipValue (fuel + 1) (number ++ rest) = .ok rest := by
  obtain ⟨n, hn⟩ := h.numeral hrest
  obtain ⟨c, cs, rfl, hc⟩ := h.exists_cons
  obtain ⟨d, ds, heq, hspace, -⟩ := (IsValue.number h).exists_cons
  obtain ⟨rfl, rfl⟩ := List.cons.inj heq
  rw [List.cons_append] at hn ⊢
  rw [skipValue, skipBlank_cons hspace]
  split
  case h_8 d ds _ _ _ _ _ _ heq =>
    rw [← heq, ← (List.cons.inj heq).1, if_pos hc, hn]
  case h_1 heq => cases heq
  all_goals
    next heq => exact absurd (List.cons.inj heq).1 (ne_of_beginsNumber hc (by decide))

/-- The last item of a list ends with it. -/
theorem skipItems_last {before value after : List Char} {fuel : Nat} (hbefore : IsBlank before)
    (hafter : IsBlank after)
    (hskip : skipValue fuel (value ++ (after ++ ']' :: rest)) = .ok (after ++ ']' :: rest)) :
    skipItems (fuel + 1) (before ++ value ++ after ++ ']' :: rest) = .ok rest := by
  simp only [List.append_assoc]
  rw [skipItems, skipValue_blank hbefore, hskip, ok_bind, skipBlank_append hafter,
    skipBlank_cons (by decide)]
  rfl

/-- Another item of a list ends with a comma. -/
theorem skipItems_more {before value after items : List Char} {fuel : Nat}
    (hbefore : IsBlank before) (hafter : IsBlank after)
    (hskip : skipValue fuel (value ++ (after ++ ',' :: items)) = .ok (after ++ ',' :: items)) :
    skipItems (fuel + 1) (before ++ value ++ after ++ ',' :: items) = skipItems fuel items := by
  simp only [List.append_assoc]
  rw [skipItems, skipValue_blank hbefore, hskip, ok_bind, skipBlank_append hafter,
    skipBlank_cons (by decide)]
  rfl

/-- A list that is not empty is skipped with its items. -/
theorem skipValue_list {items : List Char} (h : IsItems items) (fuel : Nat) :
    skipValue (fuel + 1) ('[' :: (items ++ ']' :: rest)) =
      skipItems fuel (items ++ ']' :: rest) := by
  have hhead : ∃ c cs, skipBlank (items ++ ']' :: rest) = c :: cs ∧ c ≠ ']' := by
    cases h with
    | last hbefore hvalue hafter =>
      obtain ⟨c, cs, rfl, hspace, hc, -⟩ := hvalue.exists_cons
      rw [List.append_assoc, List.append_assoc, skipBlank_append hbefore, List.cons_append,
        skipBlank_cons hspace]
      exact ⟨c, _, rfl, hc⟩
    | more hbefore hvalue hafter hitems =>
      obtain ⟨c, cs, rfl, hspace, hc, -⟩ := hvalue.exists_cons
      simp only [List.append_assoc]
      rw [skipBlank_append hbefore, List.cons_append, skipBlank_cons hspace]
      exact ⟨c, _, rfl, hc⟩
  obtain ⟨c, cs, hcs, hc⟩ := hhead
  rw [← skipItems_skipBlank, hcs, skipValue, skipBlank_cons (by decide)]
  simp only [hcs]
  split
  · next h => cases h
  · next h => exact absurd (List.cons.inj h).1 hc
  · rfl

/-- An object that is not empty is skipped with its members. -/
theorem skipValue_object {members : List Char} (h : IsMembers members) (fuel : Nat) :
    skipValue (fuel + 1) ('\x7b' :: (members ++ '\x7d' :: rest)) =
      skipMembers fuel (members ++ '\x7d' :: rest) := by
  have hhead : ∃ cs, skipBlank (members ++ '\x7d' :: rest) = '"' :: cs := by
    cases h with
    | last hbefore =>
      simp only [List.append_assoc, List.cons_append]
      rw [skipBlank_append hbefore, skipBlank_cons (by decide)]
      exact ⟨_, rfl⟩
    | more hbefore =>
      simp only [List.append_assoc, List.cons_append]
      rw [skipBlank_append hbefore, skipBlank_cons (by decide)]
      exact ⟨_, rfl⟩
  obtain ⟨cs, hcs⟩ := hhead
  rw [← skipMembers_skipBlank, hcs, skipValue, skipBlank_cons (by decide)]
  simp only [hcs]
  rfl

/-- A colon is taken with the blanks in front of it. -/
theorem colon_append {space : List Char} (h : IsBlank space) (cs : List Char) :
    colon (space ++ ':' :: cs) = .ok cs := by
  rw [colon, skipBlank_append h, skipBlank_cons (by decide)]
  rfl

/-- What is left after a member of an object: nothing to skip if the object ends there, and
otherwise further members. -/
def afterMember (fuel : Nat) : List Char → Except Fault (List Char)
  | [] => .error .endInObject
  | '\x7d' :: rest => .ok rest
  | ',' :: rest => skipMembers fuel rest
  | _ => .error .expectedObjectEnd

/-- A member of an object is skipped up to the mark after it. -/
theorem skipMembers_step {before key space gap value after : List Char} {mark : Char}
    {fuel : Nat} (hbefore : IsBlank before) (hkey : IsContent key) (hspace : IsBlank space)
    (hgap : IsBlank gap) (hafter : IsBlank after) (hmark : isSpace mark = false)
    (hskip : skipValue fuel (value ++ (after ++ mark :: rest)) = .ok (after ++ mark :: rest)) :
    skipMembers (fuel + 1) (before ++ '"' :: (key ++ '"' :: (space ++ ':' ::
      (gap ++ (value ++ (after ++ mark :: rest)))))) = afterMember fuel (mark :: rest) := by
  rw [skipMembers, skipBlank_append hbefore, skipBlank_cons (by decide)]
  simp only [hkey.skipStringBody, ok_bind, colon_append hspace, skipValue_blank hgap, hskip,
    skipBlank_append hafter, skipBlank_cons hmark]
  rfl

mutual

/-- A value is skipped to its end; its length bounds the number of steps. -/
theorem IsValue.skip {text rest : List Char} {fuel : Nat} (h : IsValue text)
    (hrest : EndsNumber rest) (hfuel : 2 * text.length ≤ fuel) :
    skipValue fuel (text ++ rest) = .ok rest := by
  obtain ⟨fuel, rfl⟩ : ∃ n, fuel = n + 1 := by
    obtain ⟨c, cs, rfl, -⟩ := h.exists_cons
    exact Nat.exists_eq_succ_of_ne_zero (by simp at hfuel; omega)
  match h with
  | .null => simp [skipValue, skipBlank, isSpace, word]
  | .yes => simp [skipValue, skipBlank, isSpace, word]
  | .no => simp [skipValue, skipBlank, isSpace, word]
  | .number h => exact h.skip hrest fuel
  | .string h => simpa [skipValue, skipBlank, isSpace] using h.skipStringBody
  | .emptyList h =>
    have hblank := skipBlank_append h (']' :: rest)
    rw [skipBlank_cons (by decide)] at hblank
    simp [skipValue, skipBlank_cons (show isSpace '[' = false by decide), hblank]
  | .emptyObject h =>
    have hblank := skipBlank_append h ('\x7d' :: rest)
    rw [skipBlank_cons (by decide)] at hblank
    simp [skipValue, skipBlank_cons (show isSpace '\x7b' = false by decide), hblank]
  | .list h =>
    rw [List.cons_append, List.append_assoc, List.singleton_append, skipValue_list h]
    exact h.skip (by simp at hfuel; omega)
  | .object h =>
    rw [List.cons_append, List.append_assoc, List.singleton_append, skipValue_object h]
    exact h.skip (by simp at hfuel; omega)

/-- The items of a list are skipped up to its closing bracket. -/
theorem IsItems.skip {items rest : List Char} {fuel : Nat} (h : IsItems items)
    (hfuel : 2 * items.length + 1 ≤ fuel) : skipItems fuel (items ++ ']' :: rest) = .ok rest := by
  obtain ⟨fuel, rfl⟩ := Nat.exists_eq_add_of_le' (Nat.le_of_add_left_le hfuel)
  match h with
  | .last hbefore hvalue hafter =>
    refine skipItems_last hbefore hafter (hvalue.skip (endsNumber_mark hafter ?_ rest) ?_)
    · decide
    · simp at hfuel
      omega
  | .more hbefore hvalue hafter hitems =>
    rw [List.append_assoc, List.cons_append, skipItems_more hbefore hafter]
    · refine hitems.skip ?_
      simp at hfuel
      omega
    · refine hvalue.skip (endsNumber_mark hafter (by decide) _) ?_
      simp at hfuel
      omega

/-- The members of an object are skipped up to its closing brace. -/
theorem IsMembers.skip {members rest : List Char} {fuel : Nat} (h : IsMembers members)
    (hfuel : 2 * members.length + 1 ≤ fuel) :
    skipMembers fuel (members ++ '\x7d' :: rest) = .ok rest := by
  obtain ⟨fuel, rfl⟩ := Nat.exists_eq_add_of_le' (Nat.le_of_add_left_le hfuel)
  match h with
  | .last hbefore hkey hspace hgap hvalue hafter =>
    simp only [List.append_assoc, List.cons_append]
    refine (skipMembers_step hbefore hkey hspace hgap hafter (by decide)
      (hvalue.skip (endsNumber_mark hafter (by decide) _) ?_)).trans rfl
    simp at hfuel
    omega
  | .more hbefore hkey hspace hgap hvalue hafter hmembers =>
    simp only [List.append_assoc, List.cons_append]
    refine (skipMembers_step hbefore hkey hspace hgap hafter (by decide)
      (hvalue.skip (endsNumber_mark hafter (by decide) _) ?_)).trans (hmembers.skip ?_)
    all_goals
      simp at hfuel
      omega

end

/-- A value is skipped to its end. -/
theorem IsValue.skipAny (h : IsValue text) (hrest : EndsNumber rest) :
    skipAny (text ++ rest) = .ok rest :=
  h.skip hrest (by simp; omega)

end EntityMapping.Json
