import EntityMapping.Proofs.Json.Grammar

/-!
# Strings and their values

The texts of JSON strings with the values that they stand for, and the reader of strings: it
reads the texts of strings and no other, each with its value.  A character may stand for itself
unless it is a quote, a backslash or a control character; a code point may be given by one
escape, or by two that are surrogates of each other.

Main results:

- `unescape_eq_ok_iff`: the escapes with the characters that they stand for.
- `stringRest_eq_ok_iff`, `readString_eq_ok_iff`: the texts that are read as a string.
-/

namespace EntityMapping.Json

variable {cs rest : List Char}

/-! ## Escapes -/

/-- Four hexadecimal digits and the number that they spell. -/
inductive IsQuad : List Char → Nat → Prop
  | digits {a b c d : Char} {i j k l : Nat} (ha : Text.hexValue? a = some i)
      (hb : Text.hexValue? b = some j) (hc : Text.hexValue? c = some k)
      (hd : Text.hexValue? d = some l) : IsQuad [a, b, c, d] (((i * 16 + j) * 16 + k) * 16 + l)

/-- The text of an escape behind its backslash, and the character that it stands for. -/
inductive IsEscape : List Char → Char → Prop
  | letter {c d : Char}
      (h : (c, d) ∈ [('"', '"'), ('\\', '\\'), ('/', '/'), ('b', '\x08'), ('f', '\x0c'),
        ('n', '\n'), ('r', '\r'), ('t', '\t')]) : IsEscape [c] d
  | code {quad : List Char} {n : Nat} (h : IsQuad quad n) (hn : n < 0xD800 ∨ 0xDFFF < n) :
      IsEscape ('u' :: quad) (Char.ofNat n)
  | surrogates {high low : List Char} {n m : Nat} (hhigh : IsQuad high n) (hlow : IsQuad low m)
      (hn : 0xD800 ≤ n ∧ n ≤ 0xDBFF) (hm : 0xDC00 ≤ m ∧ m ≤ 0xDFFF) :
      IsEscape ('u' :: (high ++ '\\' :: 'u' :: low))
        (Char.ofNat (0x10000 + (n - 0xD800) * 0x400 + (m - 0xDC00)))

/-- A code of four digits has four characters. -/
theorem IsQuad.length_eq {quad : List Char} {n : Nat} (h : IsQuad quad n) : quad.length = 4 := by
  cases h
  rfl

/-- A computation that gives all its values gives each of them. -/
theorem map_eq_of_mapM {α β : Type} {f : α → Option β} {as : List α} {bs : List β}
    (h : as.mapM f = some bs) : as.map f = bs.map some := by
  induction as generalizing bs with
  | nil =>
    cases h
    rfl
  | cons a rest ih =>
    rw [List.mapM_cons] at h
    obtain ⟨b, hb, h⟩ := Option.bind_eq_some_iff.mp h
    obtain ⟨bs', hbs, h⟩ := Option.bind_eq_some_iff.mp h
    cases h
    rw [List.map_cons, List.map_cons, hb, ih hbs]

/-- The reader takes four hexadecimal digits, and nothing else. -/
theorem hexQuad_eq_ok_iff {n : Nat} :
    hexQuad cs = .ok n ↔ ∃ quad rest, cs = quad ++ rest ∧ IsQuad quad n := by
  constructor
  · intro h
    unfold hexQuad at h
    split at h
    · cases h
    split at h
    · next i j k l hvalues =>
      cases h
      have hvalues := map_eq_of_mapM hvalues
      have hlength : (cs.take 4).length = 4 := by simpa using congrArg List.length hvalues
      refine ⟨cs.take 4, cs.drop 4, (List.take_append_drop 4 cs).symm, ?_⟩
      match cs.take 4, hlength, hvalues with
      | [a, b, c, d], _, hvalues =>
        simp only [List.map_cons, List.map_nil, List.cons.injEq] at hvalues
        exact .digits hvalues.1 hvalues.2.1 hvalues.2.2.1 hvalues.2.2.2.1
    · cases h
  · rintro ⟨_, rest, rfl, @⟨a, b, c, d, i, j, k, l, ha, hb, hc, hd⟩⟩
    have hsize {e : Char} {v : Nat} (h : Text.hexValue? e = some v) : e.utf8Size = 1 :=
      utf8Size_of_hexValue? (h ▸ rfl)
    have hbytes : byteCount [a, b, c, d] = 4 := by
      simp [byteCount, hsize ha, hsize hb, hsize hc, hsize hd]
    simp [hexQuad, hbytes, ha, hb, hc, hd]

/-- An escape with hexadecimal digits is read as the character of its code point, or together
with a second escape. -/
theorem hexEscape_eq_ok_iff {d : Char} {n : Nat} :
    hexEscape cs = .ok (d, n) ↔
      ∃ code rest, cs = code ++ rest ∧ code.length = n ∧ IsEscape ('u' :: code) d := by
  constructor
  · intro h
    obtain ⟨v, hquad, h⟩ := bind_eq_ok.mp h
    obtain ⟨quad, rest, rfl, hv⟩ := hexQuad_eq_ok_iff.mp hquad
    have hdrop : (quad ++ rest).drop 4 = rest := by simp [← hv.length_eq]
    split at h
    · cases h
    split at h
    · cases h
      exact ⟨quad, rest, rfl, hv.length_eq, .code hv (by omega)⟩
    rw [hdrop] at h
    split at h
    · cases h
    · split at h
      · cases h
      · next low _ =>
        obtain ⟨m, hlow, hlast⟩ := bind_eq_ok.mp h
        obtain ⟨low, rest, rfl, hm⟩ := hexQuad_eq_ok_iff.mp hlow
        clear h
        split at hlast
        · cases hlast
        · obtain ⟨rfl, rfl⟩ := Prod.mk.inj (Except.ok.inj hlast)
          refine ⟨quad ++ '\\' :: 'u' :: low, rest, by simp, ?_, .surrogates hv hm ?_ ?_⟩
          · simp [hv.length_eq, hm.length_eq]
          · omega
          · omega
      · cases h
    · cases h
  · rintro ⟨code, rest, rfl, rfl, h⟩
    cases h with
    | letter h => simp at h
    | @code _ n hquad hn =>
      have hlow : ¬ (0xDC00 ≤ n ∧ n ≤ 0xDFFF) := by omega
      have hplain : n < 0xD800 ∨ 0xDBFF < n := by omega
      rw [hexEscape, hexQuad_eq_ok_iff.mpr ⟨code, rest, rfl, hquad⟩, ok_bind, if_neg hlow,
        if_pos hplain, hquad.length_eq]
    | @surrogates high low n m hhigh hlow hn hm =>
      have hn' : ¬ (0xDC00 ≤ n ∧ n ≤ 0xDFFF) := by omega
      have hn'' : ¬ (n < 0xD800 ∨ 0xDBFF < n) := by omega
      have hm' : ¬ (m < 0xDC00 ∨ 0xDFFF < m) := by omega
      have hdrop : (high ++ '\\' :: 'u' :: (low ++ rest)).drop 4 = '\\' :: 'u' :: (low ++ rest) := by
        simp [← hhigh.length_eq]
      simp only [List.append_assoc, List.cons_append]
      rw [hexEscape, hexQuad_eq_ok_iff.mpr ⟨high, _, rfl, hhigh⟩, ok_bind, if_neg hn',
        if_neg hn'', hdrop]
      simp only [hexQuad_eq_ok_iff.mpr ⟨low, rest, rfl, hlow⟩, ok_bind, if_neg hm',
        List.length_append, List.length_cons, hhigh.length_eq, hlow.length_eq]

/-- A character that is escaped by its code is the one of that code. -/
theorem unescape_code {d : Char} {n : Nat} (h : hexEscape cs = .ok (d, n)) :
    unescape ('u' :: cs) = .ok (d, n + 1) := by
  rw [unescape, h]
  rfl

/-- The escapes that the reader takes, with the characters that they stand for. -/
theorem unescape_eq_ok_iff {d : Char} {n : Nat} :
    unescape cs = .ok (d, n) ↔
      ∃ code rest, cs = code ++ rest ∧ code.length = n ∧ IsEscape code d := by
  constructor
  · intro h
    unfold unescape at h
    split at h
    case h_1 => cases h
    case h_10 rest =>
      obtain ⟨⟨d', n'⟩, hescape, heq⟩ := map_eq_ok.mp h
      cases heq
      obtain ⟨code, rest, rfl, rfl, hcode⟩ := hexEscape_eq_ok_iff.mp hescape
      exact ⟨'u' :: code, rest, rfl, rfl, hcode⟩
    case h_11 => cases h
    all_goals
      cases h
      exact ⟨[_], _, rfl, rfl, .letter (by decide)⟩
  · rintro ⟨code, rest, rfl, rfl, h⟩
    cases h with
    | letter h =>
      simp only [List.mem_cons, Prod.mk.injEq, List.not_mem_nil, or_false] at h
      rcases h with ⟨rfl, rfl⟩ | ⟨rfl, rfl⟩ | ⟨rfl, rfl⟩ | ⟨rfl, rfl⟩ | ⟨rfl, rfl⟩ | ⟨rfl, rfl⟩ |
        ⟨rfl, rfl⟩ | ⟨rfl, rfl⟩ <;> rfl
    | code hquad hn =>
      exact unescape_code (hexEscape_eq_ok_iff.mpr ⟨_, rest, rfl, rfl, .code hquad hn⟩)
    | surrogates hhigh hlow hn hm =>
      exact unescape_code (hexEscape_eq_ok_iff.mpr ⟨_, rest, rfl, rfl, .surrogates hhigh hlow hn hm⟩)

/-! ## Strings -/

/-- What stands between the quotes of a string, and the characters of its value. -/
inductive Spells : List Char → List Char → Prop
  | nil : Spells [] []
  | plain {c : Char} {content ds : List Char} (hquote : c ≠ '"') (hslash : c ≠ '\\')
      (hvisible : 0x20 ≤ c.toNat) (h : Spells content ds) : Spells (c :: content) (c :: ds)
  | escape {code content ds : List Char} {d : Char} (hcode : IsEscape code d)
      (h : Spells content ds) : Spells ('\\' :: (code ++ content)) (d :: ds)

/-- The text of a string with its quotes. -/
def SpellsString (text : List Char) (s : String) : Prop :=
  ∃ content, text = '"' :: (content ++ ['"']) ∧ Spells content s.toList

/-- A string is read up to its closing quote. -/
theorem Spells.stringBody {content ds : List Char} (h : Spells content ds) :
    stringBody 0 (content ++ '"' :: rest) = .ok (ds, rest) := by
  induction h with
  | nil => rfl
  | plain hquote hslash hvisible _ ih =>
    rw [List.cons_append, Json.stringBody, if_neg hquote, if_neg hslash,
      if_neg (Nat.not_lt.mpr hvisible), ih]
    rfl
  | @escape code content ds d hcode _ ih =>
    have hread := unescape_eq_ok_iff.mpr ⟨code, content ++ '"' :: rest, rfl, rfl, hcode⟩
    rw [List.cons_append, List.append_assoc, Json.stringBody]
    simp only [hread, stringBody_skip, ih]
    rfl

/-- What is read as the characters of a string spells them; the induction is on the length of
the text, as an escape is skipped as a whole. -/
theorem spells_of_stringBody {ds : List Char} (h : stringBody 0 cs = .ok (ds, rest)) :
    ∃ content, cs = content ++ '"' :: rest ∧ Spells content ds := by
  induction hlength : cs.length using Nat.strongRecOn generalizing cs ds with
  | ind length ih =>
    cases cs with
    | nil => cases h
    | cons c tail =>
      have hpush {d : Char} {tail' : List Char} (hlt : tail'.length < length)
          (h : push d (stringBody 0 tail') = .ok (ds, rest)) :
          ∃ content ds', ds = d :: ds' ∧ tail' = content ++ '"' :: rest ∧ Spells content ds' := by
        obtain ⟨⟨ds', rest'⟩, hread, heq⟩ := map_eq_ok.mp h
        cases heq
        obtain ⟨content, htail, hspells⟩ := ih _ hlt hread rfl
        exact ⟨content, ds', rfl, htail, hspells⟩
      rw [stringBody] at h
      split at h
      · next hquote =>
        cases h
        exact ⟨[], by rw [hquote]; rfl, .nil⟩
      · next hquote =>
        split at h
        · next hslash =>
          split at h
          · cases h
          · next d n hread =>
            obtain ⟨code, tail', rfl, rfl, hcode⟩ := unescape_eq_ok_iff.mp hread
            rw [stringBody_skip] at h
            obtain ⟨content, ds', rfl, rfl, hspells⟩ := hpush (by simp at hlength; omega) h
            exact ⟨'\\' :: (code ++ content), by simp [hslash], .escape hcode hspells⟩
        · next hslash =>
          split at h
          · cases h
          · next hvisible =>
            obtain ⟨content, ds', rfl, rfl, hspells⟩ := hpush (by simp at hlength; omega) h
            exact ⟨c :: content, rfl, .plain hquote hslash (Nat.not_lt.mp hvisible) hspells⟩

/-- The texts that are read as a string whose opening quote has been read. -/
theorem stringRest_eq_ok_iff {s : String} :
    stringRest cs = .ok (s, rest) ↔
      ∃ content, cs = content ++ '"' :: rest ∧ Spells content s.toList := by
  constructor
  · intro h
    obtain ⟨⟨ds, rest'⟩, hread, heq⟩ := map_eq_ok.mp h
    cases heq
    rw [String.toList_ofList]
    exact spells_of_stringBody hread
  · rintro ⟨content, rfl, hspells⟩
    rw [stringRest, hspells.stringBody]
    simp [Except.map]

/-- A text is spelled by its quoted form. -/
theorem spellsString_quote (s : String) :
    SpellsString ('"' :: (s.toList.flatMap escape ++ ['"'])) s := by
  obtain ⟨content, heq, hspells⟩ := spells_of_stringBody (stringBody_flatMap_escape s.toList [])
  exact ⟨content, by rw [heq], hspells⟩

/-- Every text begins with the blanks that are skipped. -/
theorem exists_blank (cs : List Char) : ∃ blank, IsBlank blank ∧ cs = blank ++ skipBlank cs :=
  ⟨cs.takeWhile isSpace, List.all_eq_true.mp List.all_takeWhile,
    List.takeWhile_append_dropWhile.symm⟩

/-- What follows blanks, if it begins with a visible character. -/
theorem skipBlank_eq_cons_iff {c : Char} (hc : isSpace c = false) :
    skipBlank cs = c :: rest ↔ ∃ blank, IsBlank blank ∧ cs = blank ++ c :: rest := by
  constructor
  · intro h
    exact h ▸ exists_blank cs
  · rintro ⟨blank, hblank, rfl⟩
    rw [skipBlank_append hblank, skipBlank_cons hc]

/-- The texts that are read as a string. -/
theorem readString_eq_ok_iff {s : String} :
    readString cs = .ok (s, rest) ↔
      ∃ blank text, IsBlank blank ∧ SpellsString text s ∧ cs = blank ++ (text ++ rest) := by
  constructor
  · intro h
    unfold readString readText at h
    split at h
    · next tail hskip =>
      obtain ⟨blank, hblank, rfl⟩ := (skipBlank_eq_cons_iff (by decide)).mp hskip
      obtain ⟨content, rfl, hspells⟩ := stringRest_eq_ok_iff.mp h
      exact ⟨blank, _, hblank, ⟨content, rfl, hspells⟩, by simp⟩
    · cases h
  · rintro ⟨blank, text, hblank, ⟨content, rfl, hspells⟩, rfl⟩
    have hread : stringRest (content ++ '"' :: rest) = .ok (s, rest) :=
      stringRest_eq_ok_iff.mpr ⟨content, rfl, hspells⟩
    rw [readString, readText, skipBlank_append hblank, List.cons_append, List.append_assoc,
      skipBlank_cons (by decide)]
    exact hread

end EntityMapping.Json
