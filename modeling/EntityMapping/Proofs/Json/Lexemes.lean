import EntityMapping.Json.Printer
import EntityMapping.Json.Reader
import Mathlib.Tactic.SplitIfs

/-!
# Lexemes read back

Strings and numbers are read back from their compact text, whatever follows.  A number must be
followed by something that cannot belong to it, as it is inside a document.

Main results:

- `stringRest_quote`: a string is read back.
- `readNatural_toDigits`: a number of 64 bits is read back.
-/

namespace EntityMapping.Json

variable {rest : List Char}

/-! ## Escapes -/

/-- A hexadecimal digit has the value for which it is written. -/
theorem hexValue?_hexDigit {n : Nat} (h : n < 16) : Text.hexValue? (hexDigit n) = some n := by
  have hall : ∀ m : Fin 16, Text.hexValue? (hexDigit m) = some m.val := by decide
  exact hall ⟨n, h⟩

/-- A written hexadecimal digit is one byte long. -/
theorem utf8Size_hexDigit {n : Nat} (h : n < 16) : (hexDigit n).utf8Size = 1 := by
  have hall : ∀ m : Fin 16, (hexDigit m).utf8Size = 1 := by decide
  exact hall ⟨n, h⟩

/-- The digits of a control character are read as its number. -/
theorem hexQuad_control {n : Nat} (h : n < 0x20) (rest : List Char) :
    hexQuad ('0' :: '0' :: hexDigit (n / 16) :: hexDigit (n % 16) :: rest) = .ok n := by
  have hhigh : n / 16 < 16 := by omega
  have hlow : n % 16 < 16 := Nat.mod_lt _ (by decide)
  have hbytes : byteCount ['0', '0', hexDigit (n / 16), hexDigit (n % 16)] = 4 := by
    simp [byteCount, utf8Size_hexDigit hhigh, utf8Size_hexDigit hlow]
    decide
  have hzero : Text.hexValue? '0' = some 0 := by decide
  have hvalue : ((0 * 16 + 0) * 16 + n / 16) * 16 + n % 16 = n := by omega
  simp only [hexQuad, List.take_succ_cons, List.take_zero, hbytes]
  simp [hzero, hexValue?_hexDigit hhigh, hexValue?_hexDigit hlow]
  omega

/-- A character stands for itself in a string, or an escape stands for it. -/
theorem escape_cases (c : Char) :
    escape c = [c] ∧ c ≠ '"' ∧ c ≠ '\\' ∧ 0x20 ≤ c.toNat ∨
      ∃ tail, escape c = '\\' :: tail ∧
        ∀ rest, unescape (tail ++ rest) = .ok (c, tail.length) := by
  unfold escape
  split_ifs with hquote hslash hb hf hn hr ht hcontrol
  · exact .inr ⟨_, rfl, fun _ => by subst hquote; rfl⟩
  · exact .inr ⟨_, rfl, fun _ => by subst hslash; rfl⟩
  · exact .inr ⟨_, rfl, fun _ => by subst hb; rfl⟩
  · exact .inr ⟨_, rfl, fun _ => by subst hf; rfl⟩
  · exact .inr ⟨_, rfl, fun _ => by subst hn; rfl⟩
  · exact .inr ⟨_, rfl, fun _ => by subst hr; rfl⟩
  · exact .inr ⟨_, rfl, fun _ => by subst ht; rfl⟩
  · refine .inr ⟨_, rfl, fun rest => ?_⟩
    have hescape : hexEscape ('0' :: '0' :: hexDigit (c.toNat / 16) ::
        hexDigit (c.toNat % 16) :: rest) = .ok (c, 4) := by
      have hlow : ¬ (0xDC00 ≤ c.toNat ∧ c.toNat ≤ 0xDFFF) := by omega
      have hplain : c.toNat < 0xD800 ∨ 0xDBFF < c.toNat := by omega
      rw [hexEscape, hexQuad_control hcontrol]
      simp [bind, Except.bind, hlow, hplain, Char.ofNat_toNat]
    simp [unescape, hescape, Except.map]
  · exact .inl ⟨rfl, hquote, hslash, Nat.not_lt.mp hcontrol⟩

/-! ## Strings -/

/-- Characters that an escape has taken already are passed over. -/
theorem stringBody_skip (tail rest : List Char) :
    stringBody tail.length (tail ++ rest) = stringBody 0 rest := by
  induction tail with
  | nil => rfl
  | cons c tail ih => exact ih

/-- A character is read back, escaped or not. -/
theorem stringBody_escape (c : Char) (rest : List Char) :
    stringBody 0 (escape c ++ rest) = push c (stringBody 0 rest) := by
  rcases escape_cases c with ⟨hescape, hquote, hslash, hvisible⟩ | ⟨tail, hescape, hread⟩
  · simp [hescape, stringBody, hquote, hslash, Nat.not_lt.mpr hvisible]
  · rw [hescape, List.cons_append, stringBody]
    simp [hread, stringBody_skip]

/-- Escaped characters are read back up to the quote behind them. -/
theorem stringBody_flatMap_escape (cs rest : List Char) :
    stringBody 0 (cs.flatMap escape ++ '"' :: rest) = .ok (cs, rest) := by
  induction cs with
  | nil => rfl
  | cons c cs ih =>
    rw [List.flatMap_cons, List.append_assoc, stringBody_escape, ih]
    rfl

/-- A string is read back. -/
theorem stringRest_quote (s : String) (rest : List Char) :
    stringRest (s.toList.flatMap escape ++ '"' :: rest) = .ok (s, rest) := by
  rw [stringRest, stringBody_flatMap_escape]
  simp [Except.map]

/-! ## Numbers -/

/-- The digits before are all that there are. -/
def EndsDigits (rest : List Char) : Prop := ∀ c ∈ rest.head?, c.isDigit = false

/-- A number may end before the characters, none of which belongs to it. -/
def EndsNumber (rest : List Char) : Prop :=
  ∀ c ∈ rest.head?, c.isDigit = false ∧ c ≠ '.' ∧ c ≠ 'e' ∧ c ≠ 'E'

/-- What cannot belong to a number is no digit. -/
theorem EndsNumber.endsDigits (h : EndsNumber rest) : EndsDigits rest := fun c hc => (h c hc).1

/-- Digits, at least one. -/
structure IsDigits (ds : List Char) : Prop where
  ne_nil : ds ≠ []
  all : ∀ d ∈ ds, d.isDigit = true

/-- The whole part of a number has no superfluous zeros. -/
def IsWhole (ds : List Char) : Prop := ds = ['0'] ∨ IsDigits ds ∧ ds.head? ≠ some '0'

/-- The fraction of a number, if there is one. -/
inductive IsFraction : List Char → Prop
  | absent : IsFraction []
  | digits {ds : List Char} (h : IsDigits ds) : IsFraction ('.' :: ds)

/-- The exponent of a number, if there is one. -/
inductive IsExponent : List Char → Prop
  | absent : IsExponent []
  | digits {e : Char} {sign ds : List Char} (he : e = 'e' ∨ e = 'E')
      (hsign : sign = [] ∨ sign = ['+'] ∨ sign = ['-']) (h : IsDigits ds) :
      IsExponent (e :: (sign ++ ds))

/-- The text of a number. -/
inductive IsNumber : List Char → Prop
  | intro {sign whole fraction exponent : List Char} (hsign : sign = [] ∨ sign = ['-'])
      (hwhole : IsWhole whole) (hfraction : IsFraction fraction)
      (hexponent : IsExponent exponent) : IsNumber (sign ++ whole ++ fraction ++ exponent)

/-- The leading digits end where no digit follows. -/
theorem leadingDigits_append {ds : List Char} (hds : ∀ d ∈ ds, d.isDigit = true)
    (hrest : EndsDigits rest) :
    leadingDigits (ds ++ rest) = ds ∧ (ds ++ rest).dropWhile Char.isDigit = rest := by
  induction ds with
  | nil => cases rest <;> simp_all [leadingDigits, EndsDigits]
  | cons d ds ih =>
    obtain ⟨hd, hds⟩ := List.forall_mem_cons.mp hds
    obtain ⟨htake, hdrop⟩ := ih hds
    rw [leadingDigits] at htake
    simp [leadingDigits, hd, htake, hdrop]

/-- Digits are read up to what is no digit. -/
theorem IsDigits.someDigits {ds : List Char} (h : IsDigits ds) (hrest : EndsDigits rest) :
    someDigits (ds ++ rest) = .ok (ds, rest) := by
  obtain ⟨hlead, hdrop⟩ := leadingDigits_append h.all hrest
  obtain ⟨d, ds, rfl⟩ := List.exists_cons_of_ne_nil h.ne_nil
  rw [List.cons_append] at hlead hdrop ⊢
  simp [Json.someDigits, hlead, hdrop]

/-- The whole part of a number is read up to what is no digit. -/
theorem IsWhole.wholePart {ds : List Char} (h : IsWhole ds) (hrest : EndsDigits rest) :
    wholePart (ds ++ rest) = .ok (ds, rest) := by
  rcases h with rfl | ⟨hdigits, hzero⟩
  · have hempty : ∀ d ∈ ([] : List Char), d.isDigit = true := by simp
    have hnone : leadingDigits rest = [] := (leadingDigits_append hempty hrest).1
    simp [Json.wholePart, hnone]
  · obtain ⟨hlead, hdrop⟩ := leadingDigits_append hdigits.all hrest
    obtain ⟨d, ds, rfl⟩ := List.exists_cons_of_ne_nil hdigits.ne_nil
    have hd : d ≠ '0' := by simpa using hzero
    rw [List.cons_append] at hlead hdrop ⊢
    unfold Json.wholePart
    split
    · next h => cases h
    · next h => exact absurd (List.cons.inj h).1 hd
    · simp [hlead, hdrop]

/-- A fraction begins with no digit. -/
theorem IsFraction.endsDigits {fraction : List Char} (h : IsFraction fraction)
    (hrest : EndsDigits rest) : EndsDigits (fraction ++ rest) := by
  cases h with
  | absent => exact hrest
  | digits => simp [EndsDigits]

/-- Without a point there is no fraction. -/
theorem fractionPart_absent (hpoint : rest.head? ≠ some '.') :
    fractionPart rest = .ok (none, rest) := by
  unfold Json.fractionPart
  split
  · next h => simp_all
  · rfl

/-- A fraction is read up to what is neither a digit nor a point. -/
theorem IsFraction.fractionPart {fraction : List Char} (h : IsFraction fraction)
    (hrest : EndsDigits rest) (hpoint : rest.head? ≠ some '.') :
    ∃ f, fractionPart (fraction ++ rest) = .ok (f, rest) := by
  cases h with
  | absent => exact ⟨none, fractionPart_absent hpoint⟩
  | digits hds => exact ⟨_, by simp [Json.fractionPart, hds.someDigits hrest, Except.map]; rfl⟩

/-- An exponent begins with neither a digit nor a point. -/
theorem IsExponent.ends {exponent : List Char} (h : IsExponent exponent)
    (hrest : EndsNumber rest) :
    EndsDigits (exponent ++ rest) ∧ (exponent ++ rest).head? ≠ some '.' := by
  cases h with
  | absent => exact ⟨hrest.endsDigits, fun h => (hrest _ h).2.1 rfl⟩
  | digits he => rcases he with rfl | rfl <;> simp [EndsDigits]

/-- There is no exponent in front of what cannot belong to a number. -/
theorem exponentPart_absent (hrest : EndsNumber rest) :
    exponentPart rest = .ok (none, rest) := by
  cases rest with
  | nil => rfl
  | cons c rest =>
    obtain ⟨-, -, he, hE⟩ := hrest c rfl
    simp [Json.exponentPart, he, hE]

/-- An exponent is read up to what cannot belong to a number. -/
theorem IsExponent.exponentPart {exponent : List Char} (h : IsExponent exponent)
    (hrest : EndsNumber rest) : ∃ e, exponentPart (exponent ++ rest) = .ok (e, rest) := by
  cases h with
  | absent => exact ⟨none, exponentPart_absent hrest⟩
  | @digits e sign ds he hsign hds =>
    have hdigits := hds.someDigits hrest.endsDigits
    rcases hsign with rfl | rfl | rfl
    · obtain ⟨d, ds, rfl⟩ := List.exists_cons_of_ne_nil hds.ne_nil
      have hd : d.isDigit = true := hds.all d (List.mem_cons_self ..)
      refine ⟨some (digitsValue (d :: ds)), ?_⟩
      simp only [List.cons_append, List.nil_append, Json.exponentPart, he, if_true]
      split
      · next h => rw [(List.cons.inj h).1] at hd; cases hd
      · next h => rw [(List.cons.inj h).1] at hd; cases hd
      · rw [← List.cons_append, hdigits]
        rfl
    · exact ⟨_, by simp [Json.exponentPart, he, hdigits, Except.map]; rfl⟩
    · exact ⟨_, by simp [Json.exponentPart, he, hdigits, Except.map]; rfl⟩

/-- A whole part begins with a digit. -/
theorem IsWhole.exists_cons {ds : List Char} (h : IsWhole ds) :
    ∃ d rest, ds = d :: rest ∧ d.isDigit = true := by
  rcases h with rfl | ⟨hdigits, -⟩
  · exact ⟨'0', [], rfl, rfl⟩
  · obtain ⟨d, rest, rfl⟩ := List.exists_cons_of_ne_nil hdigits.ne_nil
    exact ⟨d, rest, rfl, hdigits.all d (List.mem_cons_self ..)⟩

/-- A digit is no blank. -/
theorem isSpace_of_isDigit {d : Char} (hd : d.isDigit = true) : isSpace d = false := by
  simp only [isSpace, Bool.or_eq_false_iff, beq_eq_false_iff_ne]
  refine ⟨⟨⟨?_, ?_⟩, ?_⟩, ?_⟩ <;> rintro rfl <;> cases hd

/-- Without a sign, all of the text is read as the rest of a number. -/
theorem numeral_unsigned {d : Char} (hd : d.isDigit = true) (cs : List Char) :
    numeral (d :: cs) = numeralRest false (d :: cs) := by
  unfold Json.numeral
  split
  · next h => rw [(List.cons.inj h).1] at hd; cases hd
  · rfl

/-- The text of a number is read to its end. -/
theorem IsNumber.numeral {text : List Char} (h : IsNumber text) (hrest : EndsNumber rest) :
    ∃ n, numeral (text ++ rest) = .ok (n, rest) := by
  obtain ⟨hsign, hwhole, hfraction, hexponent⟩ := h
  rename_i sign whole fraction exponent
  obtain ⟨hdigits, hpoint⟩ := hexponent.ends hrest
  obtain ⟨f, hf⟩ := hfraction.fractionPart hdigits hpoint
  obtain ⟨e, he⟩ := hexponent.exponentPart hrest
  have hw := hwhole.wholePart (hfraction.endsDigits hdigits)
  have hread (negative : Bool) :
      numeralRest negative (whole ++ (fraction ++ (exponent ++ rest))) =
        .ok (⟨negative, whole, f, e⟩, rest) := by
    rw [numeralRest, hw]
    change Except.bind (Json.fractionPart _) _ = _
    rw [hf]
    change Except.bind (Json.exponentPart _) _ = _
    rw [he]
    rfl
  rcases hsign with rfl | rfl
  · obtain ⟨d, ds, rfl, hd⟩ := hwhole.exists_cons
    refine ⟨⟨false, d :: ds, f, e⟩, ?_⟩
    simp only [List.nil_append, List.append_assoc, List.cons_append] at hread ⊢
    rw [numeral_unsigned hd, hread]
  · exact ⟨_, by simpa [Json.numeral] using hread true⟩

/-! ## Natural numbers -/

/-- A positive number has no leading zero. -/
theorem head?_toDigits {n : Nat} (hn : 0 < n) : (Nat.toDigits 10 n).head? ≠ some '0' := by
  induction n using Nat.strongRecOn with
  | _ n ih =>
    rw [Nat.toDigits_eq_if (by decide)]
    split
    · simp; omega
    · have hrest := ih (n / 10) (by omega) (by omega)
      rw [List.head?_append]
      cases hhead : (Nat.toDigits 10 (n / 10)).head? with
      | none => exact absurd (List.head?_eq_none_iff.mp hhead) Nat.toDigits_ne_nil
      | some d => simpa [hhead] using hrest

/-- The digits of a number are a whole part. -/
theorem isWhole_toDigits (n : Nat) : IsWhole (Nat.toDigits 10 n) := by
  rcases Nat.eq_zero_or_pos n with rfl | hn
  · exact .inl (Nat.toDigits_zero 10)
  · exact .inr ⟨⟨Nat.toDigits_ne_nil,
      fun d hd => Nat.isDigit_of_mem_toDigits (by decide) (by decide) hd⟩, head?_toDigits hn⟩

/-- The digits of a number have its value. -/
theorem digitsValue_toDigits (n : Nat) : digitsValue (Nat.toDigits 10 n) = n :=
  Nat.ofDigitChars_ten_toDigits

/-- The digits of a number are read as a numeral without sign, fraction and exponent. -/
theorem numeral_toDigits (n : Nat) (hrest : EndsNumber rest) :
    numeral (Nat.toDigits 10 n ++ rest) = .ok (⟨false, Nat.toDigits 10 n, none, none⟩, rest) := by
  have hwhole := (isWhole_toDigits n).wholePart hrest.endsDigits
  have hpoint : rest.head? ≠ some '.' := fun h => (hrest _ h).2.1 rfl
  have hread : numeralRest false (Nat.toDigits 10 n ++ rest) =
      .ok (⟨false, Nat.toDigits 10 n, none, none⟩, rest) := by
    rw [numeralRest, hwhole]
    change Except.bind (fractionPart _) _ = _
    rw [fractionPart_absent hpoint]
    change Except.bind (exponentPart _) _ = _
    rw [exponentPart_absent hrest]
    rfl
  obtain ⟨d, ds, hds, hd⟩ := (isWhole_toDigits n).exists_cons
  rw [hds] at hread ⊢
  exact (numeral_unsigned hd _).trans hread

/-- A number of 64 bits is read back. -/
theorem number_toDigits {n : Nat} (hn : n < UInt64.size) (hrest : EndsNumber rest) :
    number (Nat.toDigits 10 n ++ rest) = .ok (.int n, rest) := by
  have hvalue : Numeral.value ⟨false, Nat.toDigits 10 n, none, none⟩ = .ok (.int n) := by
    simp [Numeral.value, Numeral.integer?, digitsValue_toDigits, hn]
  rw [number, numeral_toDigits n hrest]
  change Except.bind (Numeral.value _) _ = _
  rw [hvalue]
  rfl

/-- A number of 64 bits is read back from its digits. -/
theorem readNatural_toDigits {n : Nat} (hn : n < UInt64.size) (hrest : EndsNumber rest) :
    readNatural (Nat.toDigits 10 n ++ rest) = .ok (n, rest) := by
  have hread := number_toDigits hn hrest
  obtain ⟨d, ds, hds, hd⟩ := (isWhole_toDigits n).exists_cons
  rw [hds, List.cons_append] at hread ⊢
  simp [readNatural, skipBlank, isSpace_of_isDigit hd, hd, hread]

end EntityMapping.Json
